import Mathlib.Data.List.Forall2
import NavPolicy.Command.Output
import NavPolicy.Proofs.Json.Gaps
import NavPolicy.Proofs.Success

/-!
# Answers that are written

A run that writes a text may write it in many pieces, and the output may fail at each of them.
Whatever the output does, such a run writes the pieces in order, stops where the output fails and
fails itself for no other reason.
-/

namespace NavPolicy.Command

open NavPolicy.Json

variable {σ α β : Type}

namespace Output

variable {out : Output σ} {state : σ}

/-- Write texts one after the other, up to the first one that the output does not take. -/
def writeAll (out : Output σ) : List String → σ → Except String Unit × σ
  | [], state => (.ok (), state)
  | text :: texts, state =>
    match out.write text state with
    | (.ok (), state) => out.writeAll texts state
    | (.error reason, state) => (.error reason, state)

theorem writeAll_append (out : Output σ) (texts more : List String) (state : σ) :
    out.writeAll (texts ++ more) state =
      match out.writeAll texts state with
      | (.ok (), state) => out.writeAll more state
      | (.error reason, state) => (.error reason, state) := by
  induction texts generalizing state with
  | nil => rfl
  | cons text texts ih =>
      rw [List.cons_append, writeAll, writeAll]
      split
      · exact ih _
      · rfl

/-- An output that takes whatever is written. -/
def Reliable (out : Output σ) : Prop := ∀ text state, (out.write text state).1 = .ok ()

theorem Reliable.writeAll_eq (h : out.Reliable) (texts : List String) (state : σ) :
    (out.writeAll texts state).1 = .ok () := by
  induction texts generalizing state with
  | nil => rfl
  | cons text texts ih =>
      have hwrite := h text state
      rw [writeAll]
      split
      · exact ih _
      · rename_i heq
        rw [heq] at hwrite
        cases hwrite

/-- A buffer takes whatever is written. -/
theorem reliable_buffer : buffer.Reliable := fun _ _ => rfl

theorem writeAll_buffer (texts : List String) (held : String) :
    buffer.writeAll texts held = (.ok (), held ++ String.join texts) := by
  induction texts generalizing held with
  | nil => simp [writeAll]
  | cons text texts ih =>
      have hwrite : buffer.write text held = (.ok (), held ++ text) := rfl
      rw [writeAll, hwrite, String.join_cons, ← String.append_assoc]
      exact ih _

end Output

namespace Run

variable {run : Run σ α} {a : α} {b : β} {text more : String} {f : Failure}
variable {out : Output σ} {state : σ}

/-- Whether a run writes a text, in whatever pieces, and then gives a value.  It fails only where
the output does. -/
def Answers (run : Run σ α) (a : α) (text : String) : Prop :=
  ∃ pieces, String.join pieces = text ∧ ∀ out state, run.on out state =
    match out.writeAll pieces state with
    | (.ok (), state) => (.ok a, state)
    | (.error reason, state) => (.error (.notWritten reason), state)

/-- Whether a run fails before it writes. -/
def FailsWith (run : Run σ α) (f : Failure) : Prop :=
  ∀ out state, run.on out state = (.error f, state)

/-- An answer without a text. -/
theorem answers_pure (a : α) : (pure a : Run σ α).Answers a "" :=
  ⟨[], rfl, fun _ _ => rfl⟩

/-- A text that is written in one piece. -/
theorem answers_write (text : String) : (write text : Run σ Unit).Answers () text := by
  refine ⟨[text], by simp, fun out state => ?_⟩
  rw [on_write, Output.writeAll]
  cases out.write text state with
  | mk result state => cases result <;> rfl

/-- What is answered next is written behind what was answered first. -/
theorem Answers.bind {next : α → Run σ β} (h : run.Answers a text)
    (hnext : (next a).Answers b more) : (run >>= next).Answers b (text ++ more) := by
  obtain ⟨pieces, rfl, hrun⟩ := h
  obtain ⟨pieces', rfl, hrun'⟩ := hnext
  refine ⟨pieces ++ pieces', String.join_append, fun out state => ?_⟩
  rw [on_bind, hrun, Output.writeAll_append]
  cases out.writeAll pieces state with
  | mk result state =>
      cases result with
      | error reason => rfl
      | ok _ => exact hrun' out state

/-- A buffer holds the answer behind what it held. -/
theorem Answers.on_buffer {run : Run String α} (h : run.Answers a text) (held : String) :
    run.on .buffer held = (.ok a, held ++ text) := by
  obtain ⟨pieces, rfl, hrun⟩ := h
  rw [hrun, Output.writeAll_buffer]

/-- Nothing is done after a failure. -/
theorem FailsWith.bind (h : run.FailsWith f) (next : α → Run σ β) :
    (run >>= next).FailsWith f := by
  intro out state
  rw [on_bind, h out state]

/-- A failure that is there already is not written about. -/
theorem failsWith_ofExcept (f : Failure) : (ofExcept (.error f) : Run σ α).FailsWith f :=
  fun _ _ => rfl

theorem ofExcept_ok_bind (a : α) (next : α → Run σ β) :
    (ofExcept (.ok a) >>= next) = next a := rfl

/-! ## Failing without a trace -/

/-- Whether a run either fails before it writes, or answers. -/
def Settles (run : Run σ α) : Prop := (∃ f, run.FailsWith f) ∨ ∃ a text, run.Answers a text

/-- Whether a run that fails has written nothing.  With an output that takes whatever is written
this is so for every failure, and otherwise for every failure but that of the output. -/
structure IsSilent (run : Run σ α) : Prop where
  reliable : ∀ out : Output σ, out.Reliable → ∀ state f state',
    run.on out state = (.error f, state') → state' = state
  other : ∀ (out : Output σ) state f state', run.on out state = (.error f, state') →
    state' = state ∨ ∃ reason, f = .notWritten reason

/-- An output that takes whatever is written gets the answer. -/
theorem Answers.on_fst (h : run.Answers a text) (hout : out.Reliable) (state : σ) :
    (run.on out state).1 = .ok a := by
  obtain ⟨pieces, -, hrun⟩ := h
  have hwritten := hout.writeAll_eq pieces state
  rw [hrun]
  split
  · rfl
  · rename_i heq
    rw [heq] at hwritten
    cases hwritten

private theorem FailsWith.isSilent (h : run.FailsWith f) : run.IsSilent where
  reliable out _ state _ _ hfailed := by
    rw [h out state] at hfailed
    exact (Prod.mk.inj hfailed).2.symm
  other out state _ _ hfailed := by
    rw [h out state] at hfailed
    exact Or.inl (Prod.mk.inj hfailed).2.symm

/-- An answer is never withheld, so it is the output that fails where there is none. -/
theorem Answers.isSilent (h : run.Answers a text) : run.IsSilent where
  reliable out hout state _ _ hfailed := by
    have hok := h.on_fst hout state
    rw [hfailed] at hok
    cases hok
  other out state _ _ hfailed := by
    obtain ⟨pieces, -, hrun⟩ := h
    rw [hrun] at hfailed
    split at hfailed
    · cases hfailed
    · exact Or.inr ⟨_, (Except.error.inj (Prod.mk.inj hfailed).1).symm⟩

/-- What fails early or answers is silent when it fails. -/
theorem Settles.isSilent (h : run.Settles) : run.IsSilent := by
  rcases h with ⟨_, h⟩ | ⟨_, _, h⟩
  · exact h.isSilent
  · exact h.isSilent

/-! ## Documents -/

section Documents

variable {level : Nat} {part : Run σ Unit} {parts : List (Run σ Unit)} {texts : List (List Char)}

/-- Whether parts write texts, each its own. -/
def AnswerEach (parts : List (Run σ Unit)) (texts : List (List Char)) : Prop :=
  List.Forall₂ (fun part text => part.Answers () (String.ofList text)) parts texts

private theorem answers_forM (separator : List Char) (h : AnswerEach parts texts) :
    (parts.forM fun part => do write (String.ofList separator); part).Answers ()
      (String.ofList (texts.flatMap fun text => separator ++ text)) := by
  induction h with
  | nil => exact answers_pure ()
  | cons hpart _ ih =>
      rw [List.flatMap_cons, String.ofList_append, String.ofList_append]
      exact ((answers_write _).bind hpart).bind ih

private theorem answers_block (level : Nat) (first last : Char) (h : AnswerEach parts texts) :
    (block level (String.singleton first) (String.singleton last) parts).Answers ()
      (String.ofList (Value.block level first last texts)) := by
  cases h with
  | nil =>
      have htext : String.ofList (Value.block level first last []) =
          String.singleton first ++ String.singleton last :=
        String.toList_injective (by simp [Value.block])
      rw [htext]
      exact answers_write _
  | cons hpart hparts =>
      have htext : ∀ text texts, String.ofList (Value.block level first last (text :: texts)) =
          (String.singleton first ++ String.ofList (Value.newLine (level + 1))) ++
            (String.ofList text ++ (String.ofList (texts.flatMap fun text =>
              (',' :: Value.newLine (level + 1)) ++ text) ++
                (String.ofList (Value.newLine level) ++ String.singleton last))) := by
        intro text texts
        apply String.toList_injective
        simp [Value.block, separate_cons]
      have hmore := answers_forM (',' :: Value.newLine (level + 1)) hparts
      rw [htext]
      exact (answers_write _).bind (hpart.bind (hmore.bind (answers_write _)))

theorem answers_member (level : Nat) (name : String) {d : Data} {v : Value}
    (h : (document level d : Run σ Unit).Answers () (String.ofList (v.prettyText level))) :
    (do write (quoted name ++ ": "); document level d : Run σ Unit).Answers ()
      (String.ofList (quote name.toList ++ ':' :: ' ' :: v.prettyText level)) := by
  have htext : String.ofList (quote name.toList ++ ':' :: ' ' :: v.prettyText level) =
      (quoted name ++ ": ") ++ String.ofList (v.prettyText level) :=
    String.toList_injective (by simp [quoted])
  rw [htext]
  exact (answers_write _).bind h

mutual

/-- Data that has a document is written as that document is. -/
theorem answers_document (level : Nat) : ∀ {d : Data} {v : Value}, d.encode = .ok v →
    (document level d : Run σ Unit).Answers () (String.ofList (v.prettyText level))
  | .null, _, rfl => answers_write _
  | .bool true, _, rfl => answers_write _
  | .bool false, _, rfl => answers_write _
  | .number n, _, rfl => by
    rw [Value.prettyText, String.ofList_toList]
    exact answers_write _
  | .string s, _, rfl => answers_write _
  | .list items, v, h => by
    obtain ⟨vs, hvs, rfl⟩ := map_eq_ok.1 h
    exact answers_block level '[' ']' (answerEach_items (level + 1) hvs)
  | .record fields, v, h => by
    obtain ⟨ms, hms, rfl⟩ := map_eq_ok.1 h
    exact answers_block level '\x7b' '\x7d' (answerEach_fields (level + 1) hms)
  | .map entries, v, h => by
    obtain ⟨ms, hms, rfl⟩ := map_eq_ok.1 h
    exact answers_block level '\x7b' '\x7d' (answerEach_entries (level + 1) hms)

theorem answerEach_items (level : Nat) : ∀ {ds : List Data} {vs : List Value},
    Data.encodeItems ds = .ok vs →
      AnswerEach (itemRuns level ds : List (Run σ Unit)) (Value.prettyItems level vs)
  | [], _, rfl => .nil
  | d :: rest, vs, h => by
    rw [Data.encodeItems] at h
    split at h
    · cases h
    · rename_i v hv
      obtain ⟨more, hmore, rfl⟩ := map_eq_ok.1 h
      exact .cons (answers_document level hv) (answerEach_items level hmore)

theorem answerEach_fields (level : Nat) : ∀ {ds : List (String × Data)} {ms : Members},
    Data.encodeFields ds = .ok ms →
      AnswerEach (fieldRuns level ds : List (Run σ Unit)) (Value.prettyMembers level ms)
  | [], _, rfl => .nil
  | (name, d) :: rest, ms, h => by
    rw [Data.encodeFields] at h
    split at h
    · cases h
    · rename_i v hv
      obtain ⟨more, hmore, rfl⟩ := map_eq_ok.1 h
      exact .cons (answers_member level name (answers_document level hv))
        (answerEach_fields level hmore)

theorem answerEach_entries (level : Nat) : ∀ {ds : List (Data × Data)} {ms : Members},
    Data.encodeEntries ds = .ok ms →
      AnswerEach (entryRuns level ds : List (Run σ Unit)) (Value.prettyMembers level ms)
  | [], _, rfl => .nil
  | (key, d) :: rest, ms, h => by
    rw [Data.encodeEntries] at h
    split at h
    · cases h
    · rename_i name hname
      split at h
      · cases h
      · rename_i v hv
        obtain ⟨more, hmore, rfl⟩ := map_eq_ok.1 h
        refine .cons ?_ (answerEach_entries level hmore)
        rw [hname, mapError_ok, ofExcept_ok_bind]
        exact answers_member level name (answers_document level hv)

end

end Documents

end Run

end NavPolicy.Command
