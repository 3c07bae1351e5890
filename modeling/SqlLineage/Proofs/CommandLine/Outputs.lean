import Mathlib.Tactic.SplitIfs
import SqlLineage.CommandLine.Run

/-!
# Printing

What is printed comes out in order, some of it late.  Each action on standard output is followed
from where it starts to where it ends, also when it fails: standard output that takes everything
makes nothing fail, and standard output that takes nothing lets nothing out.
-/

namespace SqlLineage.CommandLine

/-- A text that ends in a line feed. -/
def EndsLine (text : String) : Prop :=
  ∃ front, text = front ++ "\n"

/-- Standard output takes all that a run prints, or nothing. -/
def Sink.AllOrNothing : Sink → Prop
  | .unbounded => True
  | .bounded writes _ => writes = 0

/-- What has been printed, whether it has come out or not. -/
def Output.whole (output : Output) : String :=
  output.shown ++ output.held

/-- What printing does with standard output, however it ends. -/
structure Output.Leads (before after : Output) : Prop where
  takes : before.sink = .unbounded → after.sink = .unbounded
  refuses : ∀ fault, before.sink = .bounded 0 fault →
    after.sink = .bounded 0 fault ∧ after.shown = before.shown

/-- The end of an action that prints a text.  It fails only if standard output can refuse. -/
def Prints (before : Output) (text : String) : EStateM.Result FileFault Output Unit → Prop
  | .ok _ after => before.Leads after ∧ after.whole = before.whole ++ text
  | .error _ after => before.Leads after ∧ before.sink ≠ .unbounded

/-! ## Line ends -/

theorem endsWith_lineFeed_iff (text : String) : text.endsWith "\n" ↔ EndsLine text := by
  rw [String.endsWith_eq_endsWith_toSlice, String.Slice.endsWith_string_iff, String.copy_toSlice]
  constructor
  · rintro ⟨front, hfront⟩
    refine ⟨String.ofList front, ?_⟩
    rw [← String.toList_inj, String.toList_append, String.toList_ofList, hfront]
  · rintro ⟨front, rfl⟩
    rw [String.toList_append]
    exact List.suffix_append _ _

theorem cutLines_append (text : String) : (cutLines text).1 ++ (cutLines text).2 = text := by
  rw [← String.toList_inj, cutLines, String.toList_append, String.toList_ofList,
    String.toList_ofList, ← List.reverse_append, List.takeWhile_append_dropWhile,
    List.reverse_reverse]

/-- Nothing is left behind the last line feed of a text that ends in one. -/
theorem cutLines_of_endsLine {text : String} (hline : EndsLine text) :
    (cutLines text).2 = "" := by
  obtain ⟨front, rfl⟩ := hline
  rw [← String.toList_inj, cutLines, String.toList_append, List.reverse_append]
  rfl

/-! ## One action after the other -/

namespace Output.Leads

variable {before middle after : Output}

theorem refl (output : Output) : output.Leads output :=
  ⟨id, fun _ hsink => ⟨hsink, rfl⟩⟩

theorem trans (hfirst : before.Leads middle) (hnext : middle.Leads after) : before.Leads after where
  takes hsink := hnext.takes (hfirst.takes hsink)
  refuses fault hsink := by
    obtain ⟨hmiddle, hshown⟩ := hfirst.refuses fault hsink
    obtain ⟨hafter, hshown'⟩ := hnext.refuses fault hmiddle
    exact ⟨hafter, hshown'.trans hshown⟩

end Output.Leads

section Actions

variable {before after : Output} {action next : Printing Unit} {front rest : String}

/-- Two actions that succeed meet in the middle. -/
theorem Printing.bind_eq_ok_iff :
    (do action; next) before = .ok () after ↔
      ∃ middle, action before = .ok () middle ∧ next middle = .ok () after := by
  change EStateM.bind action (fun _ => next) before = _ ↔ _
  unfold EStateM.bind
  cases action before <;> simp

theorem Prints.bind (hfirst : Prints before front (action before))
    (hnext : ∀ middle, action before = .ok () middle → Prints middle rest (next middle)) :
    Prints before (front ++ rest) ((do action; next) before) := by
  change Prints before (front ++ rest) (EStateM.bind action (fun _ => next) before)
  unfold EStateM.bind
  cases haction : action before with
  | error fault middle =>
    rw [haction] at hfirst
    exact hfirst
  | ok _ middle =>
    rw [haction] at hfirst
    have hrest := hnext middle haction
    dsimp only
    cases hend : next middle with
    | error fault after =>
      rw [hend] at hrest
      exact ⟨hfirst.1.trans hrest.1, mt hfirst.1.takes hrest.2⟩
    | ok _ after =>
      rw [hend] at hrest
      refine ⟨hfirst.1.trans hrest.1, ?_⟩
      rw [hrest.2, hfirst.2, String.append_assoc]

end Actions

/-! ## The actions -/

namespace Printing

variable (before : Output) (text : String)

/-- A write lets a text out, past what is held back. -/
theorem emit_cases :
    (∃ fault, before.sink = .bounded 0 fault ∧ emit text before = .error fault before) ∨
      ∃ sink, (before.sink = .unbounded → sink = .unbounded) ∧
        (∀ fault, before.sink ≠ .bounded 0 fault) ∧
        emit text before = .ok () { before with shown := before.shown ++ text, sink := sink } := by
  unfold emit
  cases hsink : before.sink with
  | unbounded => exact .inr ⟨.unbounded, id, nofun, by simp [← hsink]⟩
  | bounded writes fault =>
    cases writes with
    | zero => exact .inl ⟨fault, rfl, rfl⟩
    | succ writes => exact .inr ⟨.bounded writes fault, nofun, nofun, rfl⟩

theorem prints_emit (hheld : before.held = "") : Prints before text (emit text before) := by
  rcases emit_cases before text with ⟨fault, hsink, hemit⟩ | ⟨sink, htakes, hroom, hemit⟩
  · rw [hemit]
    exact ⟨.refl before, by rw [hsink]; exact nofun⟩
  · rw [hemit]
    exact ⟨⟨htakes, fun fault hsink => absurd hsink (hroom fault)⟩, by simp [Output.whole, hheld]⟩

theorem prints_flush : Prints before "" (flush before) := by
  unfold flush
  split_ifs with hheld
  · exact ⟨.refl before, by simp⟩
  · rcases emit_cases before before.held with ⟨fault, hsink, hemit⟩ | ⟨sink, htakes, hroom, hemit⟩
    · rw [hemit]
      exact ⟨.refl before, by rw [hsink]; exact nofun⟩
    · rw [hemit]
      exact ⟨⟨htakes, fun fault hsink => absurd hsink (hroom fault)⟩, by simp [Output.whole]⟩

/-- Nothing is held back any more once it has been let out. -/
theorem held_of_flush {before after : Output} (hflush : flush before = .ok () after) :
    after.held = "" := by
  unfold flush at hflush
  split at hflush
  · next hheld =>
    cases hflush
    exact hheld
  · split at hflush
    · cases hflush
      rfl
    · cases hflush

theorem prints_release : Prints before text (release text before) := by
  have hprints := (prints_flush before).bind
    (fun middle hflush => prints_emit middle text (held_of_flush hflush))
  rwa [String.empty_append] at hprints

theorem prints_hold : Prints before text (hold text before) :=
  ⟨⟨id, fun _ hsink => ⟨hsink, rfl⟩⟩, by simp [Output.whole, String.append_assoc]⟩

theorem prints_pour : Prints before text (pour text before) := by
  unfold pour
  split_ifs
  · exact prints_release before text
  · have hprints := (prints_flush before).bind (fun middle _ => prints_hold middle text)
    rwa [String.empty_append] at hprints
  · exact prints_hold before text

theorem prints_pourLines : Prints before text (pourLines text before) := by
  unfold pourLines
  split_ifs with htext hheld
  · exact ⟨.refl before, by simp [htext]⟩
  · exact prints_release before text
  · have hprints := (prints_pour before text).bind (fun middle _ => prints_flush middle)
    rwa [String.append_empty] at hprints

theorem prints_print : Prints before text (print text before) := by
  have hprints := (prints_pourLines before (cutLines text).1).bind
    (fun middle _ => prints_pour middle (cutLines text).2)
  rwa [cutLines_append] at hprints

theorem prints_printLine : Prints before (text ++ "\n") (printLine text before) :=
  (prints_print before text).bind (fun middle _ => prints_print middle "\n")

theorem prints_printLines (lines : List String) :
    Prints before (String.join (lines.map (· ++ "\n"))) (printLines lines before) := by
  induction lines generalizing before with
  | nil => exact ⟨.refl before, by simp [String.join]⟩
  | cons line rest ih =>
    have hprints := (prints_printLine before line).bind (fun middle _ => ih middle)
    rwa [← String.join_cons] at hprints

/-! ## Whole lines -/

section Lines

variable {before after : Output} {text : String}

theorem held_of_emit (hemit : emit text before = .ok () after) : after.held = before.held := by
  rcases emit_cases before text with ⟨_, _, hfails⟩ | ⟨_, _, _, htakes⟩
  · rw [hfails] at hemit
    cases hemit
  · rw [htakes] at hemit
    cases hemit
    rfl

theorem held_of_pourLines (htext : text ≠ "") (hpour : pourLines text before = .ok () after) :
    after.held = "" := by
  unfold pourLines at hpour
  rw [if_neg htext] at hpour
  split_ifs at hpour with hheld
  · obtain ⟨middle, hflush, hemit⟩ := bind_eq_ok_iff.mp hpour
    rw [held_of_emit hemit, held_of_flush hflush]
  · obtain ⟨middle, -, hflush⟩ := bind_eq_ok_iff.mp hpour
    exact held_of_flush hflush

/-- A text that completes its last line leaves nothing back. -/
theorem held_of_print (hline : EndsLine text) (hprint : print text before = .ok () after) :
    after.held = "" := by
  obtain ⟨middle, hlines, hpour⟩ := bind_eq_ok_iff.mp hprint
  have htext : (cutLines text).1 = text := by
    simpa [cutLines_of_endsLine hline] using cutLines_append text
  have hne : text ≠ "" := by
    obtain ⟨front, rfl⟩ := hline
    simp
  rw [htext] at hlines
  have hheld := held_of_pourLines hne hlines
  rw [cutLines_of_endsLine hline] at hpour
  cases hpour
  simpa using hheld

theorem held_of_printLine (hprint : printLine text before = .ok () after) : after.held = "" := by
  obtain ⟨middle, -, hline⟩ := bind_eq_ok_iff.mp hprint
  exact held_of_print ⟨"", rfl⟩ hline

end Lines

end Printing

/-! ## The end of a run -/

section Ends

variable {before after : Output} {fault : FileFault} {text : String}

theorem Output.close_of_held (hheld : after.held = "") : after.close = after := by
  rw [close, Printing.flush, if_pos hheld]

theorem Output.shown_close_of_refuses (hsink : after.sink = .bounded 0 fault) :
    after.close.shown = after.shown := by
  unfold close Printing.flush
  split_ifs
  · rfl
  · simp [Printing.emit, hsink]

/-- Printing that fails lets nothing out of standard output that takes all or nothing. -/
theorem Prints.silent (hprints : Prints before text (.error fault after))
    (hsink : before.sink.AllOrNothing) : after.close.shown = before.close.shown := by
  obtain ⟨hleads, hbounded⟩ := hprints
  cases hbefore : before.sink with
  | unbounded => exact absurd hbefore hbounded
  | bounded writes fault' =>
    obtain rfl : writes = 0 := by rwa [hbefore] at hsink
    obtain ⟨hafter, hshown⟩ := hleads.refuses fault' hbefore
    rw [Output.shown_close_of_refuses hafter, Output.shown_close_of_refuses hbefore, hshown]

end Ends

end SqlLineage.CommandLine
