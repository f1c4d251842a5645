import NavPolicy.Options.Reader
import NavPolicy.Proofs.Json.Edited

/-!
# Options overlay their defaults

Options that are written are read back as they were.  When members of the text are deleted, in the
whole or inside of a platform, exactly their options go back to their defaults, and members that
are inserted under other names change nothing.
-/

namespace NavPolicy

open NavPolicy.Json Cursor

/-! ## The options of one platform -/

namespace ScriptOptions

def names : List String :=
  ["anchorInterception", "markerAttribute", "bridgeObject", "logPrefix", "noticeText",
    "noticeDurationMs"]

/-- A text of options that was edited: the members whose names are not kept were deleted, and
foreign ones were inserted. -/
def IsEdited (o : ScriptOptions) (kept : String → Bool) (text : List Char) : Prop :=
  IsEditedObject names (o.toDocument.writtenMembers.filter fun m => kept m.1) text

/-- The options that are kept, and the defaults of the other ones. -/
def keeping (o : ScriptOptions) (kept : String → Bool) : ScriptOptions :=
  let blank : ScriptOptions := {}
  { anchorInterception :=
      if kept "anchorInterception" then o.anchorInterception else blank.anchorInterception
    markerAttribute := if kept "markerAttribute" then o.markerAttribute else blank.markerAttribute
    bridgeObject := if kept "bridgeObject" then o.bridgeObject else blank.bridgeObject
    logPrefix := if kept "logPrefix" then o.logPrefix else blank.logPrefix
    noticeText := if kept "noticeText" then o.noticeText else blank.noticeText
    noticeDurationMs :=
      if kept "noticeDurationMs" then o.noticeDurationMs else blank.noticeDurationMs }

def copy (o : ScriptOptions) (name : String) (r : ScriptOptions) : ScriptOptions :=
  match name with
  | "anchorInterception" => { r with anchorInterception := o.anchorInterception }
  | "markerAttribute" => { r with markerAttribute := o.markerAttribute }
  | "bridgeObject" => { r with bridgeObject := o.bridgeObject }
  | "logPrefix" => { r with logPrefix := o.logPrefix }
  | "noticeText" => { r with noticeText := o.noticeText }
  | "noticeDurationMs" => { r with noticeDurationMs := o.noticeDurationMs }
  | _ => r

variable {o : ScriptOptions} {kept : String → Bool} {fuel : Nat}

private theorem sets_string {name s : String} (update : ScriptOptions → String → ScriptOptions)
    (hfind : ((textFields fuel).find? fun f => f.name == name) =
      some (fieldOf name (stringValue fuel) update))
    (hset : ∀ r, o.copy name r = update r s) (hfuel : (quote s.toList).length < fuel) :
    Sets (textFields fuel) o.copy (name, quote s.toList) :=
  sets_of_reads _ update s hfind hset fun _ h => stringValue_written hfuel h

private theorem sets_anchorInterception {i : Interception} (hi : o.anchorInterception = some i)
    (hfuel : (quote i.name.toList).length < fuel) :
    Sets (textFields fuel) o.copy ("anchorInterception", quote i.name.toList) := by
  have hchoice : (Interception.choices.find? fun c => c.1 == i.name) = some (i.name, i) := by
    cases i <;> rfl
  apply sets_of_reads (optionValue (choiceValue fuel Interception.choices))
    (fun r x => { r with anchorInterception := x }) (some i)
  · rfl
  · intro r
    rw [← hi]
    rfl
  · intro cur rest _ h
    exact optionValue_choice hchoice hfuel h

private theorem sets_noticeDurationMs
    (hfuel : (Value.ofNat o.noticeDurationMs.toNat).compactText.length < fuel) :
    Sets (textFields fuel) o.copy
      ("noticeDurationMs", (Value.ofNat o.noticeDurationMs.toNat).compactText) := by
  have htext : (Value.ofNat o.noticeDurationMs.toNat).compactText =
      Nat.toDigits 10 o.noticeDurationMs.toNat := Nat.toList_repr
  rw [htext] at hfuel ⊢
  apply sets_of_reads (wordValue fuel) (fun r x => { r with noticeDurationMs := x.toUInt64 })
    o.noticeDurationMs.toNat
  · rfl
  · intro r
    rw [Nat.toUInt64_eq, UInt64.ofNat_toNat]
    rfl
  · intro cur rest hrest h
    exact wordValue_written o.noticeDurationMs.toNat_lt hfuel
      (endsNumber_gap_append (List.forall_mem_nil _) hrest) h

/-- Every member of a written document sets its option. -/
theorem sets_member {m : String × List Char} (hm : m ∈ o.toDocument.writtenMembers)
    (hfuel : m.2.length < fuel) : Sets (textFields fuel) o.copy m := by
  simp only [toDocument, Value.writtenMembers, List.map_append, List.mem_append, List.map_cons,
    List.map_nil, List.mem_cons, List.not_mem_nil, or_false] at hm
  rcases hm with hm | rfl | rfl | rfl | rfl | rfl
  · cases hi : o.anchorInterception with
    | none =>
        rw [hi] at hm
        cases hm
    | some i =>
        rw [hi] at hm
        cases List.mem_singleton.1 hm
        exact sets_anchorInterception hi hfuel
  · exact sets_string (fun r x => { r with markerAttribute := x }) rfl (fun _ => rfl) hfuel
  · exact sets_string (fun r x => { r with bridgeObject := x }) rfl (fun _ => rfl) hfuel
  · exact sets_string (fun r x => { r with logPrefix := x }) rfl (fun _ => rfl) hfuel
  · exact sets_string (fun r x => { r with noticeText := x }) rfl (fun _ => rfl) hfuel
  · exact sets_noticeDurationMs hfuel

/-- The members that are kept leave the defaults of the other options. -/
theorem foldl_copy (o : ScriptOptions) (kept : String → Bool) :
    (o.toDocument.writtenMembers.filter fun m => kept m.1).foldl (fun r m => o.copy m.1 r) {} =
      o.keeping kept := by
  have hanchor (r : ScriptOptions) :
      (if kept "anchorInterception" then o.copy "anchorInterception" r else r) =
        { r with anchorInterception :=
            if kept "anchorInterception" then o.anchorInterception else r.anchorInterception } := by
    split <;> rfl
  have hmarker (r : ScriptOptions) :
      (if kept "markerAttribute" then o.copy "markerAttribute" r else r) =
        { r with markerAttribute :=
            if kept "markerAttribute" then o.markerAttribute else r.markerAttribute } := by
    split <;> rfl
  have hbridge (r : ScriptOptions) :
      (if kept "bridgeObject" then o.copy "bridgeObject" r else r) =
        { r with bridgeObject :=
            if kept "bridgeObject" then o.bridgeObject else r.bridgeObject } := by
    split <;> rfl
  have hlog (r : ScriptOptions) :
      (if kept "logPrefix" then o.copy "logPrefix" r else r) =
        { r with logPrefix := if kept "logPrefix" then o.logPrefix else r.logPrefix } := by
    split <;> rfl
  have htext (r : ScriptOptions) :
      (if kept "noticeText" then o.copy "noticeText" r else r) =
        { r with noticeText := if kept "noticeText" then o.noticeText else r.noticeText } := by
    split <;> rfl
  have hduration (r : ScriptOptions) :
      (if kept "noticeDurationMs" then o.copy "noticeDurationMs" r else r) =
        { r with noticeDurationMs :=
            if kept "noticeDurationMs" then o.noticeDurationMs else r.noticeDurationMs } := by
    split <;> rfl
  rw [List.foldl_filter]
  -- An interception that is not set has no member, kept or not.
  cases hi : o.anchorInterception with
  | none =>
      simp only [toDocument, hi, Value.writtenMembers, optionalMember, List.nil_append,
        List.map_cons, List.map_nil, List.foldl_cons, List.foldl_nil, hmarker, hbridge, hlog, htext,
        hduration, keeping, ite_self]
  | some i =>
      simp only [toDocument, hi, Value.writtenMembers, optionalMember, List.cons_append,
        List.nil_append, List.map_cons, List.map_nil, List.foldl_cons, List.foldl_nil, hanchor,
        hmarker, hbridge, hlog, htext, hduration, keeping]

private theorem names_nodup (o : ScriptOptions) (kept : String → Bool) :
    ((o.toDocument.writtenMembers.filter fun m => kept m.1).map Prod.fst).Nodup := by
  have hnames : (o.toDocument.writtenMembers.map Prod.fst).Sublist names := by
    rw [toDocument]
    cases o.anchorInterception with
    | none => exact .cons _ (.refl _)
    | some i => exact .refl _
  have hnodup : names.Nodup := by decide
  exact hnodup.sublist ((List.filter_sublist.map Prod.fst).trans hnames)

/-- The options of one platform are read from an edited text. -/
theorem ofCursor_edited {text rest : List Char} {cur : Cursor} (h : o.IsEdited kept text)
    (hfuel : text.length < fuel) (hcur : cur.rest = text ++ rest) :
    ReadsTo (ofCursor fuel cur) (o.keeping kept) rest := by
  have hobject : IsEditedObject ((textFields fuel).map TextField.name)
      (o.toDocument.writtenMembers.filter fun m => kept m.1) text := h
  have hset : ∀ m ∈ o.toDocument.writtenMembers.filter fun m => kept m.1,
      Sets (textFields fuel) o.copy m := fun m hm =>
    sets_member (List.mem_filter.1 hm).1 (Nat.lt_of_le_of_lt (hobject.length_le hm) hfuel)
  have hread := record_edited "ScriptOptions" {} hobject hset (names_nodup o kept) hfuel hcur
  rwa [foldl_copy] at hread

theorem isEdited_written (o : ScriptOptions) :
    o.IsEdited (fun _ => true) o.toDocument.compactText := by
  rw [IsEdited, List.filter_true]
  exact isEditedObject_compactText _ _

end ScriptOptions

/-! ## The options of every platform -/

namespace Options

/-- A text of options that was edited: the members of the platforms that are not kept were
deleted, those of the other platforms were edited, and foreign ones were inserted. -/
def IsEdited (o : Options) (platforms : Platform → Bool) (kept : Platform → String → Bool)
    (text : List Char) : Prop :=
  ∃ texts : Platform → List Char,
    (∀ p, platforms p = true → (o.of p).IsEdited (kept p) (texts p)) ∧
      IsEditedObject (Platform.all.map Platform.name)
        ((Platform.all.filter platforms).map fun p => (p.name, texts p)) text

def keeping (o : Options) (platforms : Platform → Bool) (kept : Platform → String → Bool) :
    Options where
  ios := if platforms .ios then o.ios.keeping (kept .ios) else {}
  android := if platforms .android then o.android.keeping (kept .android) else {}
  desktop := if platforms .desktop then o.desktop.keeping (kept .desktop) else {}

def put (scripts : Platform → ScriptOptions) (name : String) (r : Options) : Options :=
  match Platform.ofName? name with
  | some .ios => { r with ios := scripts .ios }
  | some .android => { r with android := scripts .android }
  | some .desktop => { r with desktop := scripts .desktop }
  | none => r

variable {o : Options} {platforms : Platform → Bool} {kept : Platform → String → Bool}

theorem sets_platform {p : Platform} {text : List Char} {fuel : Nat}
    (h : (o.of p).IsEdited (kept p) text) (hfuel : text.length < fuel) :
    Sets (textFields fuel) (put fun p => (o.of p).keeping (kept p)) (p.name, text) := by
  have hread : ∀ {cur : Cursor} {rest : List Char}, IsDelimited rest → cur.rest = text ++ rest →
      ReadsTo (ScriptOptions.ofCursor fuel cur) ((o.of p).keeping (kept p)) rest :=
    fun _ hcur => ScriptOptions.ofCursor_edited h hfuel hcur
  cases p with
  | ios => exact sets_of_reads _ (fun r x => { r with ios := x }) _ rfl (fun _ => rfl) hread
  | android => exact sets_of_reads _ (fun r x => { r with android := x }) _ rfl (fun _ => rfl) hread
  | desktop => exact sets_of_reads _ (fun r x => { r with desktop := x }) _ rfl (fun _ => rfl) hread

theorem foldl_put (o : Options) (platforms : Platform → Bool) (kept : Platform → String → Bool) :
    (Platform.all.filter platforms).foldl
        (fun r p => put (fun p => (o.of p).keeping (kept p)) p.name r) {} =
      o.keeping platforms kept := by
  simp only [Platform.all, List.filter_cons, List.filter_nil, keeping]
  cases platforms .ios <;> cases platforms .android <;> cases platforms .desktop <;> rfl

private theorem keeping_all (o : Options) : o.keeping (fun _ => true) (fun _ _ => true) = o := rfl

private theorem isEdited_text (o : Options) :
    o.IsEdited (fun _ => true) (fun _ _ => true) o.text.toList := by
  refine ⟨fun p => (o.of p).toDocument.compactText, fun p _ => (o.of p).isEdited_written, ?_⟩
  rw [text, Value.compact, String.toList_ofList]
  exact isEditedObject_compactText _ (Platform.all.map fun p => (p.name, (o.of p).toDocument))

private theorem ofText_of_isEdited {text : String} (h : o.IsEdited platforms kept text.toList) :
    ofText text = .ok (o.keeping platforms kept) := by
  obtain ⟨texts, hscripts, hedited⟩ := h
  have hfuel : text.toList.length < text.toList.length + 1 := Nat.lt_succ_self _
  have hobject : IsEditedObject ((textFields (text.toList.length + 1)).map TextField.name)
      ((Platform.all.filter platforms).map fun p => (p.name, texts p)) text.toList := hedited
  have hset : ∀ m ∈ (Platform.all.filter platforms).map fun p => (p.name, texts p),
      Sets (textFields (text.toList.length + 1)) (put fun p => (o.of p).keeping (kept p)) m := by
    intro m hm
    have hlength := Nat.lt_of_le_of_lt (hobject.length_le hm) hfuel
    obtain ⟨p, hp, rfl⟩ := List.mem_map.1 hm
    exact sets_platform (hscripts p (List.mem_filter.1 hp).2) hlength
  have hnodup : (((Platform.all.filter platforms).map fun p => (p.name, texts p)).map
      Prod.fst).Nodup := by
    have hnames : (Platform.all.map Platform.name).Nodup := by decide
    rw [List.map_map]
    exact hnames.sublist (List.filter_sublist.map Platform.name)
  have hcur : (Cursor.ofText text.toList).rest = text.toList ++ [] := (List.append_nil _).symm
  obtain ⟨⟨line, column, rest⟩, hread, rfl⟩ :=
    record_edited "CompilerOptions" {} hobject hset hnodup hfuel hcur
  rw [List.foldl_map, foldl_put] at hread
  rw [ofText, hread]
  rfl

/-- Options overlay their defaults.  Written options are read back as they were.  From a text of
theirs from which members were deleted, in the whole or inside of platforms, and into which members
with unknown names were inserted, they are read with exactly the deleted options back at their
defaults. -/
theorem ofText_edited :
    (∀ o : Options, ofText o.text = .ok o) ∧
      ∀ {o : Options} {platforms : Platform → Bool} {kept : Platform → String → Bool}
        {text : String}, o.IsEdited platforms kept text.toList →
          ofText text = .ok (o.keeping platforms kept) := by
  refine ⟨fun o => ?_, ofText_of_isEdited⟩
  rw [ofText_of_isEdited o.isEdited_text, keeping_all]

/-- A text in which only two options are left, with a foreign member between them. -/
def editedScript : String :=
  "\x7b\"logPrefix\":\"log\",\"\\u0078\" : [1e999],\"noticeDurationMs\":18446744073709551615\x7d"

/-- A text in which only one platform is left, with a foreign member behind it. -/
def editedText : String := "\x7b\"ios\":" ++ editedScript ++ ",\"web\":null\x7d"

/-- A text with foreign members of every kind between the options. -/
theorem ofText_editedText : ofText editedText =
    .ok { ios := { logPrefix := "log", noticeDurationMs := 18446744073709551615 } } := by
  let o : Options :=
    { ios := { anchorInterception := some .notice, logPrefix := "log",
               noticeDurationMs := 18446744073709551615 }
      android := { noticeText := "Blocked" } }
  let kept (name : String) : Bool := name == "logPrefix" || name == "noticeDurationMs"
  have hgap : IsGap [] := List.forall_mem_nil _
  have hspace : IsGap [' '] := by
    intro c hc
    cases List.mem_singleton.1 hc
    rfl
  have hdigits : IsDigits ['9', '9', '9'] := ⟨by decide, List.all_eq_true.1 rfl⟩
  have hwhole : IsWhole ['1'] := .inr ⟨⟨by decide, List.all_eq_true.1 rfl⟩, by decide⟩
  have hexponent : IsExponent ['e', '9', '9', '9'] :=
    .inr ⟨'e', [], ['9', '9', '9'], by decide, by decide, hdigits, rfl⟩
  have hnumber : IsNumber ['1', 'e', '9', '9', '9'] :=
    ⟨[], ['1'], [], ['e', '9', '9', '9'], by decide, hwhole, .inl rfl, hexponent, rfl⟩
  have hinner : IsForeign ScriptOptions.names "\"\\u0078\" : [1e999]".toList :=
    @IsForeign.member _ [] ['\\', 'u', '0', '0', '7', '8'] [' '] [' '] _ [] "x" hgap
      (@Spells.unicode '0' '0' '7' '8' 120 [] [] rfl rfl rfl .nil) (by decide) hspace hspace
      (.bracketed (.last (@Derives.item [] _ [] hgap (.number hnumber) hgap))) hgap
  have houter : IsForeign (Platform.all.map Platform.name) "\"web\":null".toList :=
    @IsForeign.member _ [] ['w', 'e', 'b'] [] [] ['n', 'u', 'l', 'l'] [] "web" hgap
      (spells_escaped ['w', 'e', 'b']) (by decide) hgap hgap (.word (by decide)) hgap
  have hscript : o.ios.IsEdited kept editedScript.toList :=
    ⟨_, .kept _ (.foreign hinner (.kept _ .nil)), by decide⟩
  have hedited : o.IsEdited (fun p => p == .ios) (fun _ => kept) editedText.toList := by
    refine ⟨fun _ => editedScript.toList, fun p hp => ?_, _, .kept _ (.foreign houter .nil), ?_⟩
    · cases eq_of_beq hp
      exact hscript
    · decide +kernel
  exact ofText_edited.2 hedited

end Options

end NavPolicy
