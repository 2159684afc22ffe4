import NearMiss.Command.Run
import NearMiss.Proofs.Markup
import Mathlib.Data.List.Forall2
import Mathlib.Data.List.TakeWhile

/-!
# Running a script

Only two kinds of steps change files. All others print, and what they print either can be printed or
ends the script with wrong markup. So what is seen of a script that only prints is what its steps
print, up to the first that fails.
-/

namespace NearMiss.Command

open Console

/-- What a step that leaves files alone prints. -/
def Step.wording? : Step → Option (Except MarkupError String)
  | .print markup => some (printed markup)
  | .warn markup => some (printed markup)
  | .table shown => some shown.printed
  | .echo text => some (.ok (text ++ "\n"))
  | .makeDirectories _ => none
  | .write _ _ => none

/-- The step prints something and leaves files alone. -/
def Step.Speaks (step : Step) : Prop :=
  ∃ wording, step.wording? = some wording

/-- The step leaves files alone, and what it prints has no wrong markup. -/
def Step.Sound (step : Step) : Prop :=
  ∃ text, step.wording? = some (.ok text)

/-- What a step prints, if it can. -/
def Step.text? (step : Step) : Option String :=
  step.wording?.bind Except.toOption

/-- Whether a step prints as errors. -/
def Step.isWarning : Step → Bool
  | .warn _ => true
  | _ => false

/-- What steps print, as errors or otherwise. -/
def printedBy (asErrors : Bool) (steps : List Step) : String :=
  String.join ((steps.filter fun step => step.isWarning == asErrors).filterMap Step.text?)

/-- The steps before the first that cannot print. -/
def heard (steps : List Step) : List Step :=
  steps.takeWhile fun step => step.text?.isSome

/-- A step is sound if there is something that it prints. -/
theorem Step.sound_iff {step : Step} : step.Sound ↔ step.text?.isSome = true := by
  rw [Sound, text?]
  cases step.wording? with
  | none => simp
  | some wording =>
    cases wording with
    | error error => simp [Except.toOption]
    | ok text => simp [Except.toOption]

/-- What was said to be the wording of a step is its text. -/
theorem Step.text?_of_ok {step : Step} {text : String} (h : step.wording? = some (.ok text)) :
    step.text? = some text := by
  rw [text?, h]
  rfl

/-- Where each step is printed on its own. -/
theorem printedBy_cons (asErrors : Bool) (step : Step) (later : List Step) :
    printedBy asErrors (step :: later) =
      (if step.isWarning = asErrors then step.text?.getD "" else "") ++
        printedBy asErrors later := by
  rw [printedBy, List.filter_cons]
  by_cases hkind : step.isWarning = asErrors
  · rw [if_pos (beq_iff_eq.mpr hkind), if_pos hkind, List.filterMap_cons]
    cases step.text? with
    | none => exact String.empty_append.symm
    | some text => exact String.join_cons
  · rw [if_neg (mt beq_iff_eq.mp hkind), if_neg hkind, String.empty_append]
    rfl

/-- Steps print one after the other. -/
theorem printedBy_append (asErrors : Bool) (front back : List Step) :
    printedBy asErrors (front ++ back) = printedBy asErrors front ++ printedBy asErrors back := by
  rw [printedBy, List.filter_append, List.filterMap_append, String.join_append]
  rfl

/-- Steps of the other kind print nothing. -/
theorem printedBy_eq_empty {asErrors : Bool} {steps : List Step}
    (h : ∀ step ∈ steps, step.isWarning ≠ asErrors) : printedBy asErrors steps = "" := by
  have hnone : steps.filter (fun step => step.isWarning == asErrors) = [] :=
    List.filter_eq_nil_iff.mpr fun step hstep hkind => h step hstep (beq_iff_eq.mp hkind)
  rw [printedBy, hnone]
  rfl

/-- Sound steps of one kind print their texts one after the other. -/
theorem exists_texts {asErrors : Bool} {steps : List Step} (hsound : ∀ step ∈ steps, step.Sound)
    (hkind : ∀ step ∈ steps, step.isWarning = asErrors) :
    ∃ texts, printedBy asErrors steps = String.join texts ∧
      List.Forall₂ (fun step text => step.wording? = some (.ok text)) steps texts := by
  induction steps with
  | nil => exact ⟨[], rfl, .nil⟩
  | cons step later ih =>
    obtain ⟨⟨text, htext⟩, hlater⟩ := List.forall_mem_cons.mp hsound
    obtain ⟨hfirst, hothers⟩ := List.forall_mem_cons.mp hkind
    obtain ⟨texts, hprinted, hall⟩ := ih hlater hothers
    refine ⟨text :: texts, ?_, .cons htext hall⟩
    rw [printedBy_cons, if_pos hfirst, Step.text?_of_ok htext, Option.getD_some, hprinted,
      String.join_cons]

/-- Sound steps are all heard. -/
theorem heard_of_sound {steps : List Step} (h : ∀ step ∈ steps, step.Sound) :
    heard steps = steps := by
  rw [heard, List.takeWhile_eq_self_iff]
  exact fun step hstep => Step.sound_iff.mp (h step hstep)

/-- Of steps behind sound ones those are heard that are heard on their own. -/
theorem heard_append_of_sound {front : List Step} (h : ∀ step ∈ front, step.Sound)
    (back : List Step) : heard (front ++ back) = front ++ heard back :=
  List.takeWhile_append_of_pos fun step hstep => Step.sound_iff.mp (h step hstep)

/-- Nothing is heard from a step on that is not sound. -/
theorem heard_append_cons {front : List Step} (h : ∀ step ∈ front, step.Sound) {step : Step}
    (hstep : ¬step.Sound) (back : List Step) : heard (front ++ step :: back) = front := by
  have hnone : heard (step :: back) = [] :=
    List.takeWhile_cons_of_neg fun hsome => hstep (Step.sound_iff.mpr hsome)
  rw [heard_append_of_sound h, hnone, List.append_nil]

/-- A step that prints a text with one styled part and no other tags is sound. -/
theorem Step.sound_of_styled {step : Step} {markup : String}
    (hstep : step.wording? = some (printed markup)) {style lead s t : List Char}
    (hstyle : style ∈
      ["blue".toList, "dim".toList, "green".toList, "yellow".toList, "red".toList])
    (hlead : ∀ c ∈ lead, c ≠ '[' ∧ c ≠ '\\') (hs : TagFree s) (ht : TagFree t)
    (hmarkup : markup.toList =
      lead ++ '[' :: (style ++ ']' :: (s ++ '[' :: '/' :: (style ++ ']' :: t)))) :
    step.Sound := by
  obtain ⟨text, htext⟩ := (usable_of_mem hstyle).exists_printed hlead hs ht hmarkup
  exact ⟨text, by rw [hstep, htext]⟩

/-- A step is sound that prints a styled label and, behind a gap, a text without tags. -/
theorem Step.sound_of_labelled {step : Step} {markup : String} (style gap : List Char)
    (hstep : step.wording? = some (printed markup)) {label text : List Char}
    (hstyle : style ∈
      ["blue".toList, "dim".toList, "green".toList, "yellow".toList, "red".toList])
    (hlabel : TagFree label) (hgap : '[' ∉ gap) (htext : TagFree text)
    (hmarkup : markup.toList =
      '[' :: (style ++ ']' :: (label ++ '[' :: '/' :: (style ++ ']' :: (gap ++ text))))) :
    step.Sound :=
  sound_of_styled hstep hstyle (List.forall_mem_nil _) hlabel (htext.append_of_not_mem hgap)
    hmarkup

/-- A step with wrong markup is not sound. -/
theorem Step.not_sound_of_wrong {step : Step} {error : MarkupError}
    (h : step.wording? = some (.error error)) : ¬step.Sound := by
  rintro ⟨text, htext⟩
  rw [h] at htext
  cases htext

namespace Progress

variable {progress : Progress} {step : Step} {steps : List Step}

/-! ## One step -/

/-- Wrong markup is a failure. -/
theorem after_of_wrong (progress : Progress) {error : MarkupError}
    (h : step.wording? = some (.error error)) :
    progress.after step = .error (.markup error) := by
  cases step with
  | print markup => rw [after, Option.some.inj h]
  | warn markup => rw [after, Option.some.inj h]
  | table shown => rw [after, Option.some.inj h]
  | echo text => cases h
  | makeDirectories path => cases h
  | write path octets => cases h

/-- A step that can print adds its text to what was printed, and changes nothing else. -/
theorem after_of_ok (progress : Progress) {text : String}
    (h : step.wording? = some (.ok text)) :
    progress.after step =
      .ok ⟨progress.stdout ++ if step.isWarning = false then text else "",
        progress.stderr ++ if step.isWarning = true then text else "", progress.files⟩ := by
  cases step with
  | print markup =>
    rw [after, Option.some.inj h]
    simp [Step.isWarning]
  | warn markup =>
    rw [after, Option.some.inj h]
    simp [Step.isWarning]
  | table shown =>
    rw [after, Option.some.inj h]
    simp [Step.isWarning]
  | echo line =>
    cases h
    simp [after, Step.isWarning, String.append_assoc]
  | makeDirectories path => cases h
  | write path octets => cases h

/-! ## Many steps -/

/-- A step that succeeds is followed by the others. -/
theorem run_cons_of_ok {next : Progress} (h : progress.after step = .ok next) :
    progress.run (step :: steps) = next.run steps := by
  rw [run, h]

/-- Steps that print leave the files as they are, and what they print is what is heard of them. They
fail for wrong markup, and only if some step has it. -/
theorem run_of_speaks (progress : Progress) (h : ∀ step ∈ steps, step.Speaks) :
    (progress.run steps).1 =
        ⟨progress.stdout ++ printedBy false (heard steps),
          progress.stderr ++ printedBy true (heard steps), progress.files⟩ ∧
      ((progress.run steps).2 = none ∧ (∀ step ∈ steps, step.Sound) ∨
        ∃ front step back error, steps = front ++ step :: back ∧ (∀ s ∈ front, s.Sound) ∧
          step.wording? = some (.error error) ∧
          (progress.run steps).2 = some (.markup error)) := by
  induction steps generalizing progress with
  | nil =>
    refine ⟨?_, .inl ⟨rfl, nofun⟩⟩
    simp [run, heard, printedBy]
  | cons step later ih =>
    obtain ⟨wording, hwording⟩ := h step List.mem_cons_self
    cases wording with
    | error error =>
      have hrun : progress.run (step :: later) = (progress, some (.markup error)) := by
        rw [run, after_of_wrong progress hwording]
      have hnone : heard (step :: later) = [] :=
        heard_append_cons (List.forall_mem_nil _) (Step.not_sound_of_wrong hwording) later
      rw [hrun, hnone]
      refine ⟨?_, .inr ⟨[], step, later, error, rfl, nofun, hwording, rfl⟩⟩
      simp [printedBy]
    | ok text =>
      have hsound : step.Sound := ⟨text, hwording⟩
      have hheard : heard (step :: later) = step :: heard later :=
        heard_append_of_sound (List.forall_mem_singleton.mpr hsound) later
      have hlater : ∀ s ∈ later, s.Speaks := fun s hs => h s (List.mem_cons_of_mem _ hs)
      rw [run_cons_of_ok (after_of_ok progress hwording), hheard]
      obtain ⟨hprogress, hend⟩ := ih _ hlater
      refine ⟨?_, ?_⟩
      · rw [hprogress, printedBy_cons, printedBy_cons, Step.text?_of_ok hwording,
          Option.getD_some, String.append_assoc, String.append_assoc]
      · rcases hend with ⟨hnone, hall⟩ | ⟨front, s, back, error, rfl, hfront, hs, hcrash⟩
        · exact .inl ⟨hnone, List.forall_mem_cons.mpr ⟨hsound, hall⟩⟩
        · exact .inr ⟨step :: front, s, back, error, rfl,
            List.forall_mem_cons.mpr ⟨hsound, hfront⟩, hs, hcrash⟩

end Progress

namespace Script

/-! ## Whole scripts -/

/-- A script that only fails does nothing. -/
theorem run_ofCrash (crash : Crash) (files : FileTree) :
    (ofCrash crash).run files = ⟨1, "", "", some crash, files⟩ := rfl

/-- What is seen of a script that only prints: it leaves the files as they are, and prints what is
heard of its steps. If they are all sound, it ends as it is meant to. Otherwise the first that is
not ends it, with status one. -/
theorem run_of_speaks {steps : List Step} (h : ∀ step ∈ steps, step.Speaks)
    (ending : Except Crash Nat) (files : FileTree) {outcome : Outcome}
    (houtcome : (Script.mk steps ending).run files = outcome) :
    outcome.files = files ∧ outcome.stdout = printedBy false (heard steps) ∧
      outcome.stderr = printedBy true (heard steps) ∧
      ((∀ step ∈ steps, step.Sound) ∧
          (∀ status, ending = .ok status → outcome.crash = none ∧ outcome.status = status) ∧
          (∀ crash, ending = .error crash → outcome.crash = some crash ∧ outcome.status = 1) ∨
        ∃ front step back error, steps = front ++ step :: back ∧ (∀ s ∈ front, s.Sound) ∧
          step.wording? = some (.error error) ∧ outcome.crash = some (.markup error) ∧
          outcome.status = 1) := by
  obtain ⟨hprogress, hend⟩ := Progress.run_of_speaks { files } h
  simp only [String.empty_append] at hprogress
  subst houtcome
  rcases hend with ⟨hnone, hsound⟩ | ⟨front, step, back, error, hsteps, hfront, hstep, hcrash⟩
  · have hrun : Progress.run { files } steps =
        (⟨printedBy false (heard steps), printedBy true (heard steps), files⟩, none) :=
      Prod.ext hprogress hnone
    cases ending with
    | error crash =>
      rw [run, hrun]
      refine ⟨rfl, rfl, rfl, .inl ⟨hsound, nofun, fun _ heq => ⟨?_, rfl⟩⟩⟩
      exact congrArg some (Except.error.inj heq)
    | ok status =>
      rw [run, hrun]
      exact ⟨rfl, rfl, rfl, .inl ⟨hsound, fun _ heq => ⟨rfl, Except.ok.inj heq⟩, nofun⟩⟩
  · have hrun : Progress.run { files } steps =
        (⟨printedBy false (heard steps), printedBy true (heard steps), files⟩,
          some (.markup error)) := Prod.ext hprogress hcrash
    rw [run, hrun]
    exact ⟨rfl, rfl, rfl, .inr ⟨front, step, back, error, hsteps, hfront, hstep, rfl, rfl⟩⟩

end Script

end NearMiss.Command
