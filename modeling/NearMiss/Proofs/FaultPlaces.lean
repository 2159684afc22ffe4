import NearMiss.Proofs.CorpusFile
import NearMiss.Proofs.Faults

/-!
# Where faults are reported

A corpus is checked record by record. A record that passes adds nothing to the report, and one that
is refused adds its own faults, at least one, each under the number of the record. So the faults of
two corpora one behind the other are those of the first and then those of the second, which differ
from what they were only in the number that they begin with.
-/

namespace NearMiss.Schema

variable {α β : Type}

/-! ## Refusals give a fault -/

namespace Checked

/-- A refusal gives at least one fault. -/
def Explained (a : Checked α) : Prop :=
  ∀ faults, a = .refused faults → faults ≠ []

namespace Explained

variable {a : Checked α}

/-- A value that is read leaves nothing to explain. -/
theorem ok (value : α) : (Checked.ok value).Explained :=
  nofun

/-- A refusal names its fault. -/
theorem refuse (problem : Problem) : (Checked.refuse problem : Checked α).Explained := by
  rintro faults ⟨⟩
  exact List.cons_ne_nil _ _

/-- What is made of a value is explained as the value is. -/
theorem map (h : a.Explained) (f : α → β) : (f <$> a).Explained := by
  cases a with
  | ok value => exact ok (f value)
  | refused faults =>
    rintro faults' ⟨⟩
    exact h faults rfl

/-- Two readings are explained together. -/
theorem seq {f : Checked (α → β)} (hf : f.Explained) (ha : a.Explained) :
    (f <*> a).Explained := by
  cases f with
  | ok apply =>
    cases a with
    | ok value => exact ok (apply value)
    | refused faults =>
      rintro faults' ⟨⟩
      exact ha faults rfl
  | refused faults =>
    have hne := hf faults rfl
    cases a with
    | ok value =>
      rintro faults' ⟨⟩
      exact hne
    | refused later =>
      rintro faults' ⟨⟩
      exact List.append_ne_nil_of_left_ne_nil hne later

/-- A fault is explained one step further down. -/
theorem under (h : a.Explained) (step : Step) : (a.under step).Explained := by
  cases a with
  | ok value => exact ok value
  | refused faults =>
    rintro faults' ⟨⟩
    exact fun hnil => h faults rfl (List.map_eq_nil_iff.mp hnil)

/-- There are no faults exactly if the value passed. -/
theorem faults_eq_nil_iff (h : a.Explained) : a.faults = [] ↔ ∃ value, a = .ok value := by
  cases a with
  | ok value => exact ⟨fun _ => ⟨value, rfl⟩, fun _ => rfl⟩
  | refused faults => exact ⟨fun hnil => absurd hnil (h faults rfl), nofun⟩

end Explained

end Checked

open Checked

/-- The reader gives a fault for whatever it refuses. -/
def Explains (read : Json → Checked α) : Prop :=
  ∀ value, (read value).Explained

/-- Texts are refused with a reason. -/
theorem text_explains : Explains text := by
  intro value
  cases value with
  | str s => exact .ok s
  | _ => exact .refuse .notString

/-- Marks are refused with a reason. -/
theorem bool_explains : Explains bool := by
  intro value
  unfold bool
  split
  · exact .ok _
  · split
    · exact .ok _
    · exact .refuse _
  · split
    · exact .refuse _
    · split
      · exact .ok _
      · exact .refuse _
  · split
    · exact .ok _
    · exact .refuse _
  · exact .refuse _

/-- What may be missing is refused with a reason. -/
theorem Explains.nullable {read : Json → Checked α} (h : Explains read) :
    Explains (nullable read) := by
  intro value
  unfold Schema.nullable
  split
  · exact .ok none
  · exact (h value).map some

/-- The items of a list are refused with reasons. -/
theorem Explains.items {read : Json → Checked α} (h : Explains read) (place : Nat)
    (values : List Json) : (items read place values).Explained := by
  induction values generalizing place with
  | nil => exact .ok []
  | cons value later ih => exact (((h value).under _).map List.cons).seq (ih (place + 1))

/-- A list is refused with a reason. -/
theorem Explains.list {read : Json → Checked α} (h : Explains read) : Explains (list read) := by
  intro value
  cases value with
  | arr values => exact h.items 0 values
  | _ => exact .refuse .notList

/-- A record is refused with a reason if its fields are. -/
theorem Explains.record {kind : String} {read : Fields → Checked α}
    (h : ∀ fields, (read fields).Explained) : Explains (record kind read) := by
  intro value
  cases value with
  | obj fields => exact h fields
  | _ => exact .refuse (.notRecord kind)

/-- A field that has to be there is refused with a reason. -/
theorem Explains.required {read : Json → Checked α} (h : Explains read) (fields : Fields)
    (name : String) (others : List String) : (required fields name others read).Explained := by
  unfold Schema.required
  split
  · exact (h _).under _
  · rintro faults ⟨⟩
    exact List.cons_ne_nil _ _

/-- A field with a default is refused with a reason. -/
theorem Explains.optional {read : Json → Checked α} (h : Explains read) (fields : Fields)
    (name : String) (others : List String) (default : α) :
    (optional fields name others default read).Explained := by
  unfold Schema.optional
  split
  · exact (h _).under _
  · exact .ok default

/-! ## Items one by one -/

/-- The items of one list behind another are checked as the items of each. -/
theorem items_append (read : Json → Checked α) (place : Nat) (xs ys : List Json) :
    items read place (xs ++ ys) =
      List.append <$> items read place xs <*> items read (place + xs.length) ys := by
  induction xs generalizing place with
  | nil =>
    rw [List.nil_append, List.length_nil, Nat.add_zero]
    cases items read place ys <;> rfl
  | cons x xs ih =>
    have hplace : place + 1 + xs.length = place + (x :: xs).length := by
      rw [List.length_cons]
      omega
    rw [List.cons_append, items, ih, items, hplace]
    cases (read x).under (.index place) <;>
      cases items read (place + 1) xs <;>
        cases items read (place + (x :: xs).length) ys <;> simp [Functor.map, Seq.seq, map, seq]

/-- The faults of a list are those of its items, each under the place of its item. -/
theorem faults_items (read : Json → Checked α) (place : Nat) (xs : List Json) :
    (items read place xs).faults =
      (xs.zipIdx place).flatMap fun item => ((read item.1).under (.index item.2)).faults := by
  induction xs generalizing place with
  | nil => rfl
  | cons x xs ih => rw [items, faults_seq, faults_map, ih, List.zipIdx_cons, List.flatMap_cons]

/-- The fault with the place at the front of its path moved on. -/
def Fault.moved (count : Nat) (f : Fault) : Fault :=
  match f.path with
  | .index place :: rest => { f with path := .index (place + count) :: rest }
  | _ => f

/-- The same outcome with all faults moved on. -/
def Checked.moved (count : Nat) : Checked α → Checked α
  | .ok value => .ok value
  | .refused faults => .refused (faults.map (Fault.moved count))

/-- Faults are moved along with the items. -/
theorem faults_moved (count : Nat) (a : Checked α) :
    (a.moved count).faults = a.faults.map (Fault.moved count) := by
  cases a <;> rfl

/-- Items that stand further behind are checked with the same outcome, moved on. -/
theorem items_add (read : Json → Checked α) (place count : Nat) (xs : List Json) :
    items read (place + count) xs = (items read place xs).moved count := by
  induction xs generalizing place with
  | nil => rfl
  | cons x xs ih =>
    have hitem : (read x).under (.index (place + count)) =
        ((read x).under (.index place)).moved count := by
      cases read x with
      | ok value => rfl
      | refused faults =>
        simp only [under, moved, List.map_map]
        rfl
    have hlater := ih (place + 1)
    rw [Nat.add_right_comm] at hlater
    rw [items, items, hitem, hlater]
    cases (read x).under (.index place) <;> cases items read (place + 1) xs <;>
      simp [Functor.map, Seq.seq, map, seq, moved]

/-- Every fault of a list begins with the place of one of its items. -/
theorem exists_place_of_mem_faults_items {read : Json → Checked α} {place : Nat} {xs : List Json}
    {f : Fault} (hf : f ∈ (items read place xs).faults) :
    ∃ number rest, number < xs.length ∧ f.path = .index (place + number) :: rest := by
  rw [faults_items, List.mem_flatMap] at hf
  obtain ⟨⟨x, i⟩, hitem, hfault⟩ := hf
  obtain ⟨hle, hlt, -⟩ := List.mem_zipIdx hitem
  rw [faults_under] at hfault
  obtain ⟨inner, -, rfl⟩ := List.mem_map.mp hfault
  refine ⟨i - place, inner.path, by omega, ?_⟩
  have hplace : place + (i - place) = i := by omega
  rw [hplace]

/-- In the wording of a fault the place stands in front, and nothing else depends on it. -/
theorem exists_message_eq (rest : List Step) (problem : Problem) :
    ∃ behind : String, ∀ place : Nat,
      (Fault.mk (.index place :: rest) problem).message = toString place ++ behind := by
  cases rest with
  | nil =>
    refine ⟨": " ++ problem.message, fun place => ?_⟩
    have hpath : ".".intercalate ([.index place].map Step.text) = toString place :=
      String.intercalate_singleton
    rw [Fault.message, hpath, String.append_assoc]
  | cons step rest =>
    refine ⟨"." ++ ".".intercalate ((step :: rest).map Step.text) ++ ": " ++ problem.message,
      fun place => ?_⟩
    have hpath : ".".intercalate ((.index place :: step :: rest).map Step.text) =
        toString place ++ "." ++ ".".intercalate ((step :: rest).map Step.text) :=
      String.intercalate_cons_cons
    simp only [Fault.message, hpath, String.append_assoc]

/-- A fault of an item that is moved on is worded as before, up to the number of the item. -/
theorem exists_message_moved {f : Fault} {place : Nat} {rest : List Step}
    (hpath : f.path = .index place :: rest) (count : Nat) :
    ∃ behind : String, f.message = toString place ++ behind ∧
      (f.moved count).message = toString (place + count) ++ behind := by
  obtain ⟨path, problem⟩ := f
  obtain rfl : path = .index place :: rest := hpath
  obtain ⟨behind, hbehind⟩ := exists_message_eq rest problem
  exact ⟨behind, hbehind place, hbehind (place + count)⟩

end NearMiss.Schema

namespace NearMiss

open Schema Checked

/-! ## Corpus entries -/

/-- A parameter is refused with a reason. -/
theorem Param.ofJson_explains : Explains Param.ofJson := by
  apply Explains.record
  intro fields
  have hname := text_explains.nullable.optional fields "name" [] none
  have htype := text_explains.required fields "type" []
  have hvariadic := bool_explains.optional fields "isVariadic" ["is_variadic"] false
  have hpointer := bool_explains.optional fields "isPointer" ["is_pointer"] false
  exact (((hname.map Param.mk).seq htype).seq hvariadic).seq hpointer

/-- An interface method is refused with a reason. -/
theorem InterfaceMethod.ofJson_explains : Explains InterfaceMethod.ofJson := by
  apply Explains.record
  intro fields
  have htext (name : String) := text_explains.required fields name []
  have hlist (name : String) := Param.ofJson_explains.list.optional fields name [] []
  have hmethod : (Method.ofFields fields).Explained :=
    ((((htext "signature").map Method.mk).seq (htext "name")).seq (hlist "params")).seq
      (hlist "returns")
  exact ((hmethod.map InterfaceMethod.mk).seq (htext "interface")).seq (htext "package")

namespace Corpus

/-- The faults that a corpus text is refused for. -/
def faultsIn (text : String) : List Fault :=
  match ofText text with
  | .error (.invalid faults) => faults
  | _ => []

section Arrays

variable {text : String} {xs : List Json}

/-- A text is read if all its records are. -/
theorem ofText_of_ok (htext : Json.parse text = .ok (.arr xs)) {corpus : Corpus}
    (hitems : items InterfaceMethod.ofJson 0 xs = .ok corpus) : ofText text = .ok corpus := by
  have hread : ofJson (.arr xs) = .ok corpus := hitems
  simp only [ofText, htext, hread]

/-- A text is refused with the faults of its records. -/
theorem ofText_of_refused (htext : Json.parse text = .ok (.arr xs)) {faults : List Fault}
    (hitems : items InterfaceMethod.ofJson 0 xs = .refused faults) :
    ofText text = .error (.invalid faults) := by
  have hread : ofJson (.arr xs) = .refused faults := hitems
  simp only [ofText, htext, hread]

/-- The text of an array is a corpus exactly if its records pass. -/
theorem ofText_eq_ok_iff (htext : Json.parse text = .ok (.arr xs)) {corpus : Corpus} :
    ofText text = .ok corpus ↔ items InterfaceMethod.ofJson 0 xs = .ok corpus := by
  refine ⟨fun hread => ?_, ofText_of_ok htext⟩
  cases hitems : items InterfaceMethod.ofJson 0 xs with
  | ok found =>
    rw [ofText_of_ok htext hitems] at hread
    rw [Except.ok.inj hread]
  | refused faults =>
    rw [ofText_of_refused htext hitems] at hread
    cases hread

/-- The faults of a text are those of its records. -/
theorem faultsIn_eq (htext : Json.parse text = .ok (.arr xs)) :
    faultsIn text = (items InterfaceMethod.ofJson 0 xs).faults := by
  cases hitems : items InterfaceMethod.ofJson 0 xs with
  | ok found =>
    rw [faultsIn, ofText_of_ok htext hitems]
    rfl
  | refused faults =>
    rw [faultsIn, ofText_of_refused htext hitems]
    rfl

/-- The text of an array that is no corpus is refused for its faults, of which it has some. -/
theorem ofText_eq_error (htext : Json.parse text = .ok (.arr xs))
    (hnone : ∀ corpus, ofText text ≠ .ok corpus) :
    faultsIn text ≠ [] ∧ ofText text = .error (.invalid (faultsIn text)) := by
  have hexplained := InterfaceMethod.ofJson_explains.items 0 xs
  cases hitems : items InterfaceMethod.ofJson 0 xs with
  | ok found => exact absurd (ofText_of_ok htext hitems) (hnone found)
  | refused faults =>
    have hfaults : faultsIn text = faults := by
      rw [faultsIn_eq htext, hitems]
      rfl
    rw [hfaults]
    exact ⟨hexplained faults hitems, ofText_of_refused htext hitems⟩

end Arrays

section Append

variable {front back whole : String} {xs ys : List Json}

/-- Records behind others are read as on their own, with their places moved. -/
theorem items_append_moved (xs ys : List Json) :
    items InterfaceMethod.ofJson 0 (xs ++ ys) =
      List.append <$> items InterfaceMethod.ofJson 0 xs
        <*> (items InterfaceMethod.ofJson 0 ys).moved xs.length := by
  rw [items_append, items_add]

/-- If two arrays one behind the other are a corpus, then so is each of them. -/
theorem exists_of_ofText_append (hfront : Json.parse front = .ok (.arr xs))
    (hback : Json.parse back = .ok (.arr ys)) (hwhole : Json.parse whole = .ok (.arr (xs ++ ys)))
    {corpus : Corpus} (h : ofText whole = .ok corpus) :
    ∃ a b, ofText front = .ok a ∧ ofText back = .ok b := by
  rw [ofText_eq_ok_iff hwhole, items_append_moved] at h
  cases hxs : items InterfaceMethod.ofJson 0 xs with
  | ok a =>
    cases hys : items InterfaceMethod.ofJson 0 ys with
    | ok b => exact ⟨a, b, ofText_of_ok hfront hxs, ofText_of_ok hback hys⟩
    | refused faults =>
      rw [hxs, hys] at h
      cases h
  | refused faults =>
    rw [hxs] at h
    cases hys : items InterfaceMethod.ofJson 0 ys with
    | ok b =>
      rw [hys] at h
      cases h
    | refused later =>
      rw [hys] at h
      cases h

end Append

/-- Two arrays of records one behind the other are read as each of them. If both are corpora, the
whole is their records one behind the other. Otherwise it is refused, and the report lists the
faults of the first array and then those of the second, whose wording differs only in the number of
the record: it is moved on by the length of the first array. Record by record, the faults are those
that the check of the record gives, under its number; a record has none exactly if it passes. -/
theorem ofText_append {front back whole : String} {xs ys : List Json}
    (hfront : Json.parse front = .ok (.arr xs)) (hback : Json.parse back = .ok (.arr ys))
    (hwhole : Json.parse whole = .ok (.arr (xs ++ ys))) :
    (∀ a b, ofText front = .ok a → ofText back = .ok b → ofText whole = .ok (a ++ b)) ∧
    ((∀ a b, ¬(ofText front = .ok a ∧ ofText back = .ok b)) →
      faultsIn whole ≠ [] ∧ ofText whole = .error (.invalid (faultsIn whole)) ∧
        (ReadError.invalid (faultsIn whole)).report? = some ⟨"Corpus validation failed",
          "; ".intercalate ((faultsIn whole).map Fault.message)⟩) ∧
    faultsIn whole = faultsIn front ++ (faultsIn back).map (Fault.moved xs.length) ∧
    (∀ f ∈ faultsIn back, ∃ place < ys.length, ∃ behind : String,
      f.message = toString place ++ behind ∧
        (f.moved xs.length).message = toString (place + xs.length) ++ behind) ∧
    faultsIn whole = ((xs ++ ys).zipIdx.flatMap fun record =>
      ((InterfaceMethod.ofJson record.1).under (.index record.2)).faults) ∧
    ∀ record ∈ xs ++ ys, (InterfaceMethod.ofJson record).faults = [] ↔
      ∃ entry, InterfaceMethod.ofJson record = .ok entry := by
  have hfaults : faultsIn whole =
      faultsIn front ++ (faultsIn back).map (Fault.moved xs.length) := by
    rw [faultsIn_eq hwhole, items_append_moved, faults_seq, faults_map, faults_moved,
      faultsIn_eq hfront, faultsIn_eq hback]
  refine ⟨fun a b ha hb => ?_, fun hnone => ?_, hfaults, fun f hf => ?_, ?_, fun record _ => ?_⟩
  · rw [ofText_eq_ok_iff hfront] at ha
    rw [ofText_eq_ok_iff hback] at hb
    rw [ofText_eq_ok_iff hwhole, items_append_moved, ha, hb]
    rfl
  · have hrefused : ∀ corpus, ofText whole ≠ .ok corpus := by
      intro corpus hcorpus
      obtain ⟨a, b, hboth⟩ := exists_of_ofText_append hfront hback hwhole hcorpus
      exact hnone a b hboth
    obtain ⟨hne, herror⟩ := ofText_eq_error hwhole hrefused
    exact ⟨hne, herror, rfl⟩
  · rw [faultsIn_eq hback] at hf
    obtain ⟨place, rest, hplace, hpath⟩ := exists_place_of_mem_faults_items hf
    rw [Nat.zero_add] at hpath
    exact ⟨place, hplace, exists_message_moved hpath xs.length⟩
  · rw [faultsIn_eq hwhole, faults_items]
  · exact (InterfaceMethod.ofJson_explains record).faults_eq_nil_iff

/-- A record that passes, and one without most of its fields. -/
def firstRecords : List Json :=
  [InterfaceMethod.toJson .camel (.ofSignature "io" "Reader" "Read(p []byte)"),
    .obj [("signature", .str "Close()"), ("name", .str "Close"), ("params", .null)]]

/-- No record at all, and one with two faults in the list of its parameters. -/
def laterRecords : List Json :=
  [.null,
    .obj [("signature", .str "Seek()"), ("name", .str "Seek"),
      ("params", .arr [.obj [("type", .str "int"), ("isPointer", .str "maybe")], .bool true]),
      ("interface", .str "Seeker"), ("package", .str "io")]]

/-- The records can be parsed when they are printed. -/
theorem plain_of_mem_records : ∀ record ∈ firstRecords ++ laterRecords, record.Plain := by
  have hflag : ∀ field ∈ [("type", Json.str "int"), ("isPointer", .str "maybe")],
      field.2.Plain := by simp [Json.Plain.str]
  have hparams : (Json.arr [.obj [("type", .str "int"), ("isPointer", .str "maybe")],
      .bool true]).Plain := by
    apply Json.Plain.arr
    simp only [List.forall_mem_cons]
    exact ⟨.obj (by decide) hflag, .bool true, nofun⟩
  simp only [firstRecords, laterRecords, List.cons_append, List.nil_append, List.forall_mem_cons]
  refine ⟨InterfaceMethod.toJson_plain .camel _, .obj (by decide) ?_, .null,
    .obj (by decide) ?_, nofun⟩
  · simp [Json.Plain.str, Json.Plain.null]
  · simp [Json.Plain.str, hparams]

/-- A text with faulty records is refused with the faults of both halves. -/
theorem ofText_append_faulty :
    let whole := (Json.arr (firstRecords ++ laterRecords)).pretty
    (∀ corpus, ofText (Json.arr firstRecords).pretty ≠ .ok corpus) ∧
      ofText whole = .error (.invalid (faultsIn whole)) ∧
      (ReadError.invalid (faultsIn whole)).report? = some ⟨"Corpus validation failed",
        "1.params: Input should be a valid list; 1.interface: Field required; " ++
          "1.package: Field required; " ++
          "2: Input should be a valid dictionary or instance of InterfaceMethod; " ++
          "3.params.0.isPointer: Input should be a valid boolean, unable to interpret input; " ++
          "3.params.1: Input should be a valid dictionary or instance of Param"⟩ := by
  intro whole
  obtain ⟨hfirst, hlater⟩ := List.forall_mem_append.mp plain_of_mem_records
  have hfirst := (Json.Plain.arr hfirst).parse_pretty
  have hlater := (Json.Plain.arr hlater).parse_pretty
  have hwhole := (Json.Plain.arr plain_of_mem_records).parse_pretty
  obtain ⟨-, hrefused, -, -, hfaults, -⟩ := ofText_append hfirst hlater hwhole
  have hnone : ∀ corpus, ofText (Json.arr firstRecords).pretty ≠ .ok corpus := by
    intro corpus hcorpus
    rw [ofText_eq_ok_iff hfirst] at hcorpus
    have hitems : (items InterfaceMethod.ofJson 0 firstRecords).faults ≠ [] := by decide +kernel
    rw [hcorpus] at hitems
    exact hitems rfl
  obtain ⟨-, herror, -⟩ := hrefused fun a _ h => hnone a h.1
  have hall : faultsIn whole =
      [⟨[.index 1, .key "params"], .notList⟩, ⟨[.index 1, .key "interface"], .missing⟩,
        ⟨[.index 1, .key "package"], .missing⟩, ⟨[.index 2], .notRecord "InterfaceMethod"⟩,
        ⟨[.index 3, .key "params", .index 0, .key "isPointer"], .unclearBool⟩,
        ⟨[.index 3, .key "params", .index 1], .notRecord "Param"⟩] :=
    hfaults.trans (by decide +kernel)
  refine ⟨hnone, herror, ?_⟩
  rw [hall]
  decide +kernel

end Corpus

end NearMiss
