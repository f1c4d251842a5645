/-!
# The body of the script

The script that enforces a policy in a page ends with the same text for every destination.
It closes the set-up routine, hides what is to be hidden now and whenever the page changes,
and stops clicks on links that lead nowhere.
-/

namespace NavPolicy.Script

def bodyLines : List String := [
  "    \x7d,",
  "",
  "    hideElements() \x7b",
  "      this.hideSelectors.forEach(selector => \x7b",
  "        try \x7b",
  "          document.querySelectorAll(selector).forEach(el => \x7b",
  "            el.style.setProperty('display', 'none', 'important');",
  "            el.setAttribute(this.marker, 'true');",
  "          \x7d);",
  "        \x7d catch (e) \x7b",
  "          console.warn(this.logPrefix + ' Failed to hide:', selector, e);",
  "        \x7d",
  "      \x7d);",
  "    \x7d,",
  "",
  "    blockedEntry(anchor) \x7b",
  "      const href = anchor.getAttribute('href');",
  "      if (href === null) \x7b",
  "        return null;",
  "      \x7d",
  "      let path = href;",
  "      try \x7b",
  "        const url = new URL(href, window.location.href);",
  "        if (url.origin === window.location.origin) \x7b",
  "          path = url.pathname + url.search;",
  "        \x7d",
  "      \x7d catch (e) \x7b",
  "        // keep the raw href",
  "      \x7d",
  "      for (const rule of this.disabledAnchors) \x7b",
  "        const hit = rule.exact",
  "          ? href === rule.prefix || path === rule.prefix",
  "          : href.startsWith(rule.prefix) || path.startsWith(rule.prefix);",
  "        if (hit) \x7b",
  "          return rule.entry;",
  "        \x7d",
  "      \x7d",
  "      return null;",
  "    \x7d,",
  "",
  "    interceptAnchors() \x7b",
  "      if (this.clickHandlerInstalled || this.interception === 'disabled' || this.disabledAnchors.length === 0) \x7b",
  "        return;",
  "      \x7d",
  "      this.clickHandlerInstalled = true;",
  "      document.addEventListener('click', e => \x7b",
  "        if (e.button !== 0 || e.defaultPrevented) \x7b",
  "          return;",
  "        \x7d",
  "        const anchor = e.target instanceof Element ? e.target.closest('a[href]') : null;",
  "        if (!anchor) \x7b",
  "          return;",
  "        \x7d",
  "        try \x7b",
  "          const entry = this.blockedEntry(anchor);",
  "          if (entry === null) \x7b",
  "            return;",
  "          \x7d",
  "          e.preventDefault();",
  "          e.stopPropagation();",
  "          this.onBlocked(entry);",
  "        \x7d catch (err) \x7b",
  "          console.warn(this.logPrefix + ' Failed to intercept link:', err);",
  "        \x7d",
  "      \x7d, true);",
  "    \x7d,",
  "",
  "    onBlocked(entry) \x7b",
  "      const bridge = window[this.bridge];",
  "      if (bridge && typeof bridge.onBlockedNavigation === 'function') \x7b",
  "        bridge.onBlockedNavigation(String(entry));",
  "      \x7d",
  "      if (this.interception === 'notice') \x7b",
  "        this.showNotice();",
  "      \x7d",
  "    \x7d,",
  "",
  "    showNotice() \x7b",
  "      if (!document.body) \x7b",
  "        return;",
  "      \x7d",
  "      const notice = document.createElement('div');",
  "      notice.textContent = this.noticeText;",
  "      notice.style.cssText = [",
  "        'position: fixed',",
  "        'top: 20px',",
  "        'right: 20px',",
  "        'background: #1a1a1a',",
  "        'color: white',",
  "        'padding: 12px 20px',",
  "        'border-radius: 8px',",
  "        'z-index: 999999',",
  "        \"font-family: -apple-system, BlinkMacSystemFont, 'Segoe UI', sans-serif\",",
  "        'font-size: 14px',",
  "        'box-shadow: 0 4px 12px rgba(0,0,0,0.3)',",
  "      ].join('; ');",
  "      document.body.appendChild(notice);",
  "      setTimeout(() => notice.remove(), this.noticeDurationMs);",
  "    \x7d,",
  "",
  "    observeMutations() \x7b",
  "      const root = document.documentElement || document.body;",
  "      if (!root) \x7b",
  "        return;",
  "      \x7d",
  "      const observer = new MutationObserver(() => this.hideElements());",
  "      observer.observe(root, \x7b childList: true, subtree: true \x7d);",
  "    \x7d",
  "  \x7d;",
  "",
  "  if (document.readyState === 'loading') \x7b",
  "    document.addEventListener('DOMContentLoaded', () => NG.init());",
  "  \x7d else \x7b",
  "    NG.init();",
  "  \x7d",
  "\x7d)();"]

def body : String := String.join (bodyLines.map (· ++ "\n"))

end NavPolicy.Script
