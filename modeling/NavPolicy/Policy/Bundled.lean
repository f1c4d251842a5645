import NavPolicy.Policy.Basic

/-!
# The bundled policy

The policy that holds until another one is installed, and again after a reset.
-/

namespace NavPolicy

def Destination.instagram : Destination where
  start := "https://www.instagram.com/direct/inbox/"
  allow := ["*://www.instagram.com/direct/*", "*://instagram.com/direct/*", "/direct/.*",
    "/accounts/*", "/api/.*", "/graphql/*"]
  block := ["^https?://(?:www\\.)?instagram\\.com/?$", "/explore", "/reels/.*", "/stories/*"]
  dom := some {
    hide := ["a[href=\"/explore/\"]", "a[href=\"/reels/\"]", "a[href=\"/\"]"]
    disableAnchorsTo := ["/explore*", "/reels*", "/stories*", "/"] }
  quickActions := some [
    ("messages", "https://www.instagram.com/direct/inbox/"),
    ("newMessage", "https://www.instagram.com/direct/new/")]

def Destination.youtube : Destination where
  start := "https://www.youtube.com/feed/subscriptions"
  allow := ["/feed/subscriptions", "/watch*", "/results*", "/@*", "/channel/*", "/playlist*",
    "/youtubei/*"]
  block := ["/shorts/*", "/feed/trending*", "/"]
  dom := some {
    hide := ["ytd-reel-shelf-renderer", "ytd-rich-shelf-renderer[is-shorts]",
      "a[title=\"Shorts\"]", "#related"]
    disableAnchorsTo := ["/shorts*", "/feed/trending*"] }
  filterModes := some [
    ("safe", { blockUrls := ["*://*.doubleclick.net/*"] }),
    ("aggressive", {
      blockUrls := ["*://*.doubleclick.net/*", "*://*.googlesyndication.com/*"]
      hideSelectors := ["#comments", "ytd-watch-next-secondary-results-renderer"]
      scriptlets := [
        "document.querySelectorAll('video').forEach(v => v.removeAttribute('autoplay'));"] })]
  quickActions := some [
    ("subscriptions", "https://www.youtube.com/feed/subscriptions"),
    ("search", "https://www.youtube.com/results")]

def Destination.facebook : Destination where
  start := "https://www.facebook.com/messages/"
  allow := ["/messages/*", "/groups/*", "/events/*", "/api/.*", "/ajax/*"]
  block := ["/watch*", "/reel/*", "/marketplace*", "/"]
  dom := some {
    hide := ["[role=\"feed\"]", "a[href*=\"/watch\"]", "a[href*=\"/reel/\"]"]
    disableAnchorsTo := ["/watch*", "/reel*", "/marketplace*"] }
  quickActions := some [
    ("messages", "https://www.facebook.com/messages/"),
    ("groups", "https://www.facebook.com/groups/feed/")]

/-- The bundled policy. -/
def Policy.bundled : Policy where
  version := "2025.1.0"
  filterModeDefault := some .safe
  destinations := [("instagram", .instagram), ("youtube", .youtube), ("facebook", .facebook)]

end NavPolicy
