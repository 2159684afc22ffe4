import NearMiss.Go.Interface
import NearMiss.Proofs.Blank
import Mathlib.Data.List.DropRight
import Mathlib.Data.List.Infix

/-!
# What is extracted from a source file

The scanner cuts a file into statements, interfaces and methods, and whatever it hands on is a
stretch of the file. A record is then made of two such stretches: the name of an interface and the
text of a method, which the reader of declarations takes apart. To ask for more parameters drops
records and changes none of the others.
-/

namespace NearMiss.Go

open Text

/-! ## Stretches of the file -/

/-- Lexemes that stand together have octets that stand together. -/
theorem octetsOf_mono {part whole : List Lexeme} (h : part <:+: whole) :
    octetsOf part <:+: octetsOf whole := by
  obtain ⟨front, back, rfl⟩ := h
  refine ⟨octetsOf front, octetsOf back, ?_⟩
  simp only [octetsOf, List.flatMap_append]

/-- A statement stands in what has been read and what is still to be read. -/
theorem infix_of_mem_statementsFrom {level : Nat} {ends : Bool}
    {held stretch statement : List Lexeme}
    (h : statement ∈ statementsFrom level ends held stretch) :
    statement <:+: held.reverse ++ stretch := by
  induction stretch generalizing level ends held with
  | nil =>
    rw [statementsFrom, List.mem_singleton] at h
    rw [h, List.append_nil]
  | cons x rest ih =>
    rw [statementsFrom] at h
    split at h
    · rcases List.mem_cons.mp h with rfl | hlater
      · exact (List.prefix_append _ _).isInfix
      · have hrest : rest <:+ held.reverse ++ x :: rest :=
          (List.suffix_cons x rest).trans (List.suffix_append _ _)
        exact (ih hlater).trans hrest.isInfix
    · -- What is held grows by the lexeme that is read, so the two together stay the same.
      have hlater := ih h
      rwa [List.reverse_cons, List.append_assoc] at hlater

/-- A statement stands in the source. -/
theorem infix_of_mem_statements {stretch statement : List Lexeme}
    (h : statement ∈ statements stretch) : statement <:+: stretch :=
  infix_of_mem_statementsFrom h

/-- What is enclosed begins where the brace opens. -/
theorem enclosedFrom_fst_begins (level : Nat) (stretch : List Lexeme) :
    (enclosedFrom level stretch).1 <+: stretch := by
  induction stretch generalizing level with
  | nil => exact List.prefix_refl _
  | cons x rest ih =>
    rw [enclosedFrom]
    split
    · exact List.nil_prefix
    · exact List.cons_prefix_cons.mpr ⟨rfl, ih _⟩

/-- What stands behind what is enclosed ends the source. -/
theorem enclosedFrom_snd_ends (level : Nat) (stretch : List Lexeme) :
    (enclosedFrom level stretch).2 <:+ stretch := by
  induction stretch generalizing level with
  | nil => exact List.suffix_refl _
  | cons x rest ih =>
    rw [enclosedFrom]
    split
    · exact List.suffix_cons x rest
    · exact (ih _).trans (List.suffix_cons x rest)

/-- The next lexeme and what stands behind it end the source. -/
theorem next?_suffix {stretch rest : List Lexeme} {x : Lexeme}
    (h : next? stretch = some (x, rest)) : x :: rest <:+ stretch := by
  rw [next?] at h
  split at h
  · simp at h
  · next y later hdrop =>
    obtain ⟨rfl, rfl⟩ := Prod.mk.inj (Option.some.inj h)
    rw [← hdrop]
    exact List.dropWhile_suffix _

/-- What stands behind the next lexeme ends the source. -/
theorem suffix_of_next? {stretch rest : List Lexeme} {x : Lexeme}
    (h : next? stretch = some (x, rest)) : rest <:+ stretch :=
  (List.suffix_cons x rest).trans (next?_suffix h)

/-- Trimming gives a stretch of what it is applied to. -/
theorem trimTrivia_within (stretch : List Lexeme) : trimTrivia stretch <:+: stretch := by
  have hend : trimTrivia stretch <+: stretch.dropWhile (·.isTrivia) :=
    List.rdropWhile_prefix _ _
  exact hend.isInfix.trans (List.dropWhile_suffix _).isInfix

namespace Interface

/-- The name and the methods of an interface are stretches of the source. -/
structure Within (declared : Interface) (source : List UInt8) : Prop where
  /-- The name stands in the source. -/
  name : declared.name <:+: source
  /-- Every method stands in the source. -/
  methods : ∀ octets ∈ declared.methods, octets <:+: source

/-- What stands in a part stands in the whole. -/
theorem Within.mono {declared : Interface} {part whole : List UInt8}
    (h : declared.Within part) (hpart : part <:+: whole) : declared.Within whole where
  name := h.name.trans hpart
  methods octets hoctets := (h.methods octets hoctets).trans hpart

/-- What stands behind type parameters ends the source. -/
theorem skipTypeParams_suffix (stretch : List Lexeme) : skipTypeParams stretch <:+ stretch := by
  rw [skipTypeParams]
  split
  · next x rest hnext =>
    split
    · change (if listsTypeParams (enclosed rest).1 then (enclosed rest).2 else stretch) <:+ stretch
      split
      · exact (enclosedFrom_snd_ends 0 rest).trans (suffix_of_next? hnext)
      · exact List.suffix_refl _
    · exact List.suffix_refl _
  · exact List.suffix_refl _

/-- The text of a method stands in its element. -/
theorem methodText?_within {element : List Lexeme} {octets : List UInt8}
    (h : methodText? element = some octets) : octets <:+: octetsOf element := by
  rw [methodText?] at h
  split at h
  · simp at h
  · split at h
    · simp at h
    · split at h
      · rw [← Option.some.inj h]
        exact octetsOf_mono (trimTrivia_within element)
      · simp at h

/-- The name and the methods of an interface stand in its declaration. -/
theorem within_of_ofSpec? {spec : List Lexeme} {declared : Interface}
    (h : ofSpec? spec = some declared) : declared.Within (octetsOf spec) := by
  simp only [ofSpec?, Option.bind_eq_bind, Option.bind_eq_some_iff, Prod.exists] at h
  obtain ⟨name, rest, hname, keyword, behind, hkeyword, brace, body, hbrace, h⟩ := h
  have hspec := next?_suffix hname
  have hbody : body <:+ spec :=
    ((suffix_of_next? hbrace).trans (suffix_of_next? hkeyword)).trans
      ((skipTypeParams_suffix rest).trans (suffix_of_next? hname))
  split at h
  · obtain rfl := Option.some.inj h
    refine ⟨?_, fun octets hoctets => ?_⟩
    · have hfirst : [name] <:+: spec := (List.prefix_append [name] rest).isInfix.trans hspec.isInfix
      simpa [octetsOf] using octetsOf_mono hfirst
    · obtain ⟨element, helement, htext⟩ := List.mem_filterMap.mp hoctets
      have hinside : element <:+: body :=
        (infix_of_mem_statements helement).trans (enclosedFrom_fst_begins 0 body).isInfix
      exact (methodText?_within htext).trans (octetsOf_mono (hinside.trans hbody.isInfix))
  · simp at h

/-- A declaration stands in its statement. -/
theorem infix_of_mem_specsOf {statement spec : List Lexeme} (h : spec ∈ specsOf statement) :
    spec <:+: statement := by
  rw [specsOf] at h
  split at h
  · simp at h
  · next keyword rest hkeyword =>
    split at h
    · split at h
      · simp at h
      · next x inside hx =>
        split at h
        · have hspec := infix_of_mem_statements h
          have hinside := (enclosedFrom_fst_begins 0 inside).isInfix
          exact (hspec.trans hinside).trans
            ((suffix_of_next? hx).trans (suffix_of_next? hkeyword)).isInfix
        · rw [List.mem_singleton.mp h]
          exact (suffix_of_next? hkeyword).isInfix
    · simp at h

/-- A source ends without its byte order mark as it does with it. -/
theorem dropByteOrderMark_suffix (source : List UInt8) : dropByteOrderMark source <:+ source := by
  unfold dropByteOrderMark
  split
  · next rest => exact ⟨[0xEF, 0xBB, 0xBF], rfl⟩
  · exact List.suffix_refl _

/-- What is found in a source file stands there, octet by octet. -/
theorem within_of_mem_ofSource {source : List UInt8} {declared : Interface}
    (h : declared ∈ ofSource source) : declared.Within source := by
  obtain ⟨spec, hspec, hdeclared⟩ := List.mem_filterMap.mp h
  obtain ⟨statement, hstatement, hspec⟩ := List.mem_flatMap.mp hspec
  have hstretch : spec <:+: lexemes (dropByteOrderMark source) :=
    (infix_of_mem_specsOf hspec).trans (infix_of_mem_statements hstatement)
  have hoctets := octetsOf_mono hstretch
  rw [octetsOf_lexemes] at hoctets
  exact (within_of_ofSpec? hdeclared).mono
    (hoctets.trans (dropByteOrderMark_suffix source).isInfix)

/-! ## Records -/

section Traversal

variable {ε α β γ : Type}

/-- A mapped result is that of a step that succeeds. -/
theorem map_eq_ok_iff {x : Except ε α} {g : α → β} {b : β} :
    x.map g = .ok b ↔ ∃ a, x = .ok a ∧ g a = b := by
  cases x with
  | error error =>
    constructor
    · intro h
      cases h
    · rintro ⟨a, ha, -⟩
      cases ha
  | ok a =>
    constructor
    · intro h
      exact ⟨a, rfl, Except.ok.inj h⟩
    · rintro ⟨a', ha, rfl⟩
      rw [Except.ok.inj ha]
      rfl

/-- What a traversal that succeeds brings back comes from the elements. -/
theorem exists_mem_of_mapM_eq_ok {f : α → Except ε β} {xs : List α} {ys : List β}
    (h : xs.mapM f = .ok ys) {y : β} (hy : y ∈ ys) : ∃ x ∈ xs, f x = .ok y := by
  induction xs generalizing ys with
  | nil =>
    obtain rfl : [] = ys := Except.ok.inj h
    simp at hy
  | cons x xs ih =>
    rw [List.mapM_cons] at h
    cases hx : f x with
    | error error => simp [hx, bind, Except.bind] at h
    | ok first =>
      cases hxs : xs.mapM f with
      | error error => simp [hx, hxs, bind, Except.bind] at h
      | ok later =>
        obtain rfl : first :: later = ys := by
          simpa [hx, hxs, bind, Except.bind, pure, Except.pure] using h
        rcases List.mem_cons.mp hy with rfl | hlater
        · exact ⟨x, List.mem_cons_self, hx⟩
        · obtain ⟨x', hx', hy'⟩ := ih hxs hlater
          exact ⟨x', List.mem_cons_of_mem x hx', hy'⟩

/-- To change each result of a traversal is to change the results afterwards. -/
theorem mapM_map_result (f : α → Except ε β) (g : β → γ) (xs : List α) :
    xs.mapM (fun x => (f x).map g) = (xs.mapM f).map (List.map g) := by
  induction xs with
  | nil => rfl
  | cons x xs ih =>
    rw [List.mapM_cons, List.mapM_cons, ih]
    cases f x with
    | error error => rfl
    | ok y =>
      cases xs.mapM f with
      | error error => rfl
      | ok ys => rfl

end Traversal

variable {package : String}

/-- A record of an interface: it is worth comparing, it was read from the text of a method, and the
name of the interface is an exported one. -/
structure Records (package : String) (minParams : Int) (declared : Interface)
    (r : InterfaceMethod) : Prop where
  /-- The method is worth comparing. -/
  worth : r.isCandidate minParams = true
  /-- The interface has the declared name. -/
  interface : decode declared.name = .ok r.interface.toList
  /-- That name is an exported one. -/
  exported : isExportedName r.interface.toList = true
  /-- The method was read from the trimmed text of a declared method. -/
  signature : ∃ octets ∈ declared.methods, ∃ text, decode octets = .ok text ∧
    r = InterfaceMethod.ofSignature package r.interface (String.ofList (trim text))

/-- A method that is read is worth comparing, and is that of its trimmed text. -/
theorem readMethod_eq_some {interface : String} {minParams : Int} {octets : List UInt8}
    {r : InterfaceMethod} (h : readMethod package interface minParams octets = .ok (some r)) :
    r.isCandidate minParams = true ∧ ∃ text, decode octets = .ok text ∧
      r = InterfaceMethod.ofSignature package interface (String.ofList (trim text)) := by
  rw [readMethod] at h
  split at h
  · simp at h
  · next text htext =>
    have hread := Except.ok.inj h
    split at hread
    · next hworth =>
      obtain rfl := Option.some.inj hread
      exact ⟨hworth, text, htext, rfl⟩
    · simp at hread

/-- Whatever interface is found in a file, the methods that are read from it are records of it. -/
theorem records_of_mem_readMethods {minParams : Int} {declared : Interface}
    {methods : List InterfaceMethod}
    (h : readMethods package minParams declared = .ok methods) {r : InterfaceMethod}
    (hr : r ∈ methods) : declared.Records package minParams r := by
  rw [readMethods] at h
  split at h
  · simp at h
  · next name hname =>
    split at h
    · next hexported =>
      obtain ⟨parts, hparts, rfl⟩ := map_eq_ok_iff.mp h
      obtain ⟨part, hpart, hsome⟩ := List.mem_filterMap.mp hr
      obtain rfl : part = some r := hsome
      obtain ⟨octets, hoctets, hread⟩ := exists_mem_of_mapM_eq_ok hparts hpart
      obtain ⟨hworth, text, htext, hr⟩ := readMethod_eq_some hread
      have hinterface : r.interface = String.ofList name := by rw [hr]; rfl
      refine ⟨hworth, ?_, ?_, octets, hoctets, text, htext, ?_⟩
      · rw [hinterface, String.toList_ofList, hname]
      · rw [hinterface, String.toList_ofList, hexported]
      · rw [hinterface, ← hr]
    · obtain rfl : [] = methods := Except.ok.inj h
      simp at hr

/-- Every method that is read from interfaces is a record of one of them. -/
theorem exists_records_of_mem_parts {minParams : Int} {found : List Interface}
    {parts : List (List InterfaceMethod)}
    (h : found.mapM (readMethods package minParams) = .ok parts) {r : InterfaceMethod}
    (hr : r ∈ parts.flatten) : ∃ declared ∈ found, declared.Records package minParams r := by
  obtain ⟨part, hpart, hr⟩ := List.mem_flatten.mp hr
  obtain ⟨declared, hdeclared, hread⟩ := exists_mem_of_mapM_eq_ok h hpart
  exact ⟨declared, hdeclared, records_of_mem_readMethods hread hr⟩

/-- Every method that is extracted from a file is a record of an interface in it. -/
theorem exists_records_of_mem_extract {minParams : Int} {source : List UInt8}
    {methods : List InterfaceMethod}
    (h : extract package minParams source = .ok methods) {r : InterfaceMethod}
    (hr : r ∈ methods) :
    ∃ declared ∈ ofSource source, declared.Records package minParams r := by
  obtain ⟨parts, hparts, rfl⟩ := map_eq_ok_iff.mp h
  exact exists_records_of_mem_parts hparts hr

/-! ## A greater number of parameters -/

section Stricter

variable {less more : Int} (hle : less ≤ more)

include hle

/-- A method that reaches a higher limit reaches a lower one. -/
theorem isCandidate_of_le {m : Method} (h : m.isCandidate more = true) :
    m.isCandidate less = true := by
  simp only [Method.isCandidate, Bool.and_eq_true, decide_eq_true_eq] at *
  exact ⟨h.1, by omega⟩

/-- A higher limit keeps those methods that reach it. -/
theorem readMethod_of_le (interface : String) (octets : List UInt8) :
    readMethod package interface more octets =
      (readMethod package interface less octets).map
        (Option.filter fun r => r.isCandidate more) := by
  rw [readMethod, readMethod]
  cases decode octets with
  | error error => rfl
  | ok text =>
    refine congrArg Except.ok ?_
    split
    · next hmore =>
      rw [if_pos (isCandidate_of_le hle hmore), Option.filter_some, if_pos hmore]
    · next hnot =>
      split
      · rw [Option.filter_some, if_neg hnot]
      · rfl

/-- Of the methods of an interface those are read that have enough parameters. -/
theorem readMethods_of_le (declared : Interface) :
    readMethods package more declared =
      (readMethods package less declared).map
        (List.filter fun r => r.isCandidate more) := by
  rw [readMethods, readMethods]
  cases decode declared.name with
  | error error => rfl
  | ok name =>
    dsimp only
    split
    · have hread : readMethod package (String.ofList name) more = fun octets =>
          (readMethod package (String.ofList name) less octets).map
            (Option.filter fun r => r.isCandidate more) :=
        funext (readMethod_of_le hle (String.ofList name))
      rw [hread, mapM_map_result]
      cases declared.methods.mapM (readMethod package (String.ofList name) less) with
      | error error => rfl
      | ok parts =>
        refine congrArg Except.ok ?_
        change (parts.map (Option.filter fun r => r.isCandidate more)).filterMap id = _
        rw [List.filter_filterMap, List.filterMap_map]
        rfl
    · rfl

/-- To ask for more parameters is to drop the methods that have fewer. -/
theorem extract_of_le (source : List UInt8) :
    extract package more source =
      (extract package less source).map (List.filter fun r => r.isCandidate more) := by
  have hread : readMethods package more = fun declared =>
      (readMethods package less declared).map (List.filter fun r => r.isCandidate more) :=
    funext (readMethods_of_le hle)
  rw [extract, extract, hread, mapM_map_result]
  cases (ofSource source).mapM (readMethods package less) with
  | error error => rfl
  | ok parts => exact congrArg Except.ok List.filter_flatten.symm

end Stricter

end Interface

end NearMiss.Go
