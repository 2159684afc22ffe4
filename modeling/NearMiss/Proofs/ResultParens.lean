import NearMiss.Proofs.Entry
import NearMiss.Proofs.Positions

/-!
# Parens around a single result

A single result may stand in parens or not. The two spellings come to the same exactly if the result
has no parens of its own. Inside parens the text of a result is kept, and no paren of it is lost
when names and types are told apart. Without them the parens of the result itself are the outermost
ones, and these are dropped.
-/

namespace NearMiss

open Text

/-! ## The parens of a text -/

namespace Text

/-- The parens of a text, in order. -/
def parens (s : List Char) : List Char :=
  s.filter fun c => c == '(' || c == ')'

/-- Parentheses are collected from left to right. -/
theorem parens_append (s t : List Char) : parens (s ++ t) = parens s ++ parens t :=
  List.filter_append ..

/-- Parentheses are collected character by character. -/
theorem parens_cons (c : Char) (s : List Char) : parens (c :: s) = parens [c] ++ parens s :=
  parens_append [c] s

/-- Nothing is collected from a text without parentheses. -/
theorem parens_eq_nil_iff {s : List Char} : parens s = [] ↔ ParenFree s := by
  simp [parens, ParenFree]

/-- Trimming in front loses no parenthesis. -/
theorem parens_trimLeft (s : List Char) : parens (trimLeft s) = parens s := by
  obtain ⟨blank, hblank, hs⟩ := exists_append_trimLeft s
  conv_rhs => rw [hs]
  rw [parens_append, parens_eq_nil_iff.mpr hblank.parenFree, List.nil_append]

/-- Trimming at the end loses no parenthesis. -/
theorem parens_trimRight (s : List Char) : parens (trimRight s) = parens s := by
  obtain ⟨blank, hblank, hs⟩ := exists_trimRight_append s
  conv_rhs => rw [hs]
  rw [parens_append, parens_eq_nil_iff.mpr hblank.parenFree, List.append_nil]

/-- Splitting off a word loses no parenthesis. -/
theorem parens_splitWord (s : List Char) :
    parens (splitWord s).1 ++ parens (splitWord s).2 = parens s := by
  rw [splitWord, parens_trimLeft, ← parens_append, List.takeWhile_append_dropWhile]

/-- In a balanced text an outermost paren is opened, or there is no paren at all. -/
theorem Balanced.parenFree_of_passes {s : List Char} (hs : Balanced s)
    (hpass : Passes (looksFor '(' 0) 0 s) : ParenFree s := by
  have hzero (k : Nat) : depth (s.take k) = 0 := by
    have hnonneg := hs.nonneg (s.take k) (List.take_prefix k s)
    have hnonpos := hpass.depth_take_nonpos k
    omega
  intro c hc
  obtain ⟨k, hk⟩ := List.getElem?_of_mem hc
  have hturn := depth_take_succ hk
  rw [hzero, hzero] at hturn
  constructor
  · rintro rfl
    exact absurd hturn (by decide)
  · rintro rfl
    exact absurd hturn (by decide)

end Text

/-! ## No paren is lost in a list of results -/

namespace Param

/-- The characters of a parameter: its name, if it has one, and its type. -/
def letters (p : Param) : List Char :=
  (p.name.getD "").toList ++ p.type.toList

/-- Taking off markers loses no parenthesis. -/
theorem parens_letters_ofWritten (name : Option (List Char)) (written : List Char) :
    parens (ofWritten name written).letters = parens (name.getD []) ++ parens written := by
  obtain ⟨markers, hmarkers, hwritten⟩ := exists_markers_append name written
  have hname : ((ofWritten name written).name.getD "").toList = name.getD [] := by
    cases name with
    | none => rfl
    | some name => exact String.toList_ofList
  conv_rhs => rw [hwritten]
  rw [letters, parens_append, parens_append, parens_eq_nil_iff.mpr hmarkers, hname,
    List.nil_append]

/-- An entry is declared with all its parentheses. -/
theorem parens_letters_declared (next piece : List Char) :
    parens (declared false next piece).letters = parens piece := by
  rw [declared, parens_letters_ofWritten, ← parens_splitWord piece]
  simp only [resolve, Bool.and_false, Bool.false_eq_true, if_false]
  split
  · next hempty =>
    rw [List.isEmpty_iff.mp hempty]
    exact (List.append_nil _).symm
  · rfl

/-- Entries are resolved with all their parentheses. -/
theorem parens_letters_resolveAll (items : List (List Char)) :
    parens ((resolveAll false items).1.flatMap letters) = parens items.flatten := by
  induction items with
  | nil => rfl
  | cons piece later ih =>
    rw [resolveAll_cons, List.flatMap_cons, List.flatten_cons, parens_append, parens_append, ih,
      parens_letters_declared]

/-- Splitting at commas loses no parenthesis. -/
theorem parens_segments (level : Int) (s : List Char) :
    parens ((segments level s).1 ++ (segments level s).2.flatten) = parens s := by
  induction s generalizing level with
  | nil => rfl
  | cons c s ih =>
    rw [segments]
    split
    · next hcomma =>
      rw [List.nil_append, List.flatten_cons, ih, hcomma.1]
      rfl
    · change parens (c :: ((segments (level + turn c) s).1 ++
        (segments (level + turn c) s).2.flatten)) = parens (c :: s)
      rw [parens_cons, ih, ← parens_cons]

/-- Pieces have all the parentheses of the text. -/
theorem parens_pieces (text : List Char) : parens (pieces text).flatten = parens text := by
  have htrim (parts : List (List Char)) :
      parens (parts.map trim).flatten = parens parts.flatten := by
    induction parts with
    | nil => rfl
    | cons part parts ih =>
      rw [List.map_cons, List.flatten_cons, List.flatten_cons, parens_append, parens_append, ih,
        trim, parens_trimRight, parens_trimLeft]
  have hall := htrim ((segments 0 text).1 :: (segments 0 text).2)
  rw [List.flatten_cons, parens_segments] at hall
  rw [pieces]
  simp only
  split
  · next hlast =>
    obtain ⟨init, hinit⟩ := List.getLast?_eq_some_iff.mp hlast
    rw [hinit] at hall ⊢
    simpa using hall
  · exact hall

/-- The parens of a list of results are found in its names and types, all of them and in order. -/
theorem parens_readList (text : List Char) :
    parens ((readList false text).flatMap letters) = parens text := by
  rw [readList, parens_letters_resolveAll, parens_pieces]

end Param

/-! ## Parens around a single result -/

namespace Method

/-- Dropping outer parentheses leaves the other characters in their order. -/
theorem dropOuterParens_sublist (level : Int) (s : List Char) :
    (dropOuterParens level s).Sublist s := by
  induction s generalizing level with
  | nil => exact List.Sublist.refl []
  | cons c s ih =>
    rw [dropOuterParens]
    split
    · exact (ih _).cons c
    · exact (ih _).cons_cons c

/-- A balanced text with parens loses some of them where its outermost ones are dropped. -/
theorem length_parens_dropOuterParens_lt {s : List Char} (hs : Balanced s)
    (hparen : ¬ParenFree s) :
    (parens (dropOuterParens 0 s)).length < (parens s).length := by
  have hle (level : Int) (t : List Char) :
      (parens (dropOuterParens level t)).length ≤ (parens t).length :=
    ((dropOuterParens_sublist level t).filter fun c => c == '(' || c == ')').length_le
  cases hopen : cutOpen? 0 s with
  | none =>
    exact absurd (hs.parenFree_of_passes (cutOpen?_eq_none_iff.mp hopen)) hparen
  | some cut =>
    obtain ⟨before, after⟩ := cut
    obtain ⟨rfl, -, hdepth⟩ := cutOpen?_eq_some_iff.mp hopen
    have hdrop : dropOuterParens 0 (before ++ '(' :: after) =
        dropOuterParens 0 before ++ dropOuterParens 1 after := by
      rw [dropOuterParens_append, hdepth, dropOuterParens]
      simp
    have hparens : parens (before ++ '(' :: after) = parens before ++ '(' :: parens after := by
      rw [parens_append, parens_cons]
      rfl
    have hbefore := hle 0 before
    have hafter := hle 1 after
    rw [hdrop, hparens, parens_append, List.length_append, List.length_append, List.length_cons]
    omega

/-- A declaration with one result that stands as it is. -/
def bareResult (name params result : List Char) : String :=
  String.ofList (name ++ '(' :: (params ++ ')' :: ' ' :: result))

/-- A declaration with one result in parens. -/
def groupedResult (name params result : List Char) : String :=
  String.ofList (name ++ '(' :: (params ++ ')' :: ' ' :: '(' :: (result ++ [')'])))

/-- A bare result is read without its outer parentheses. -/
theorem returns_bareResult {name params : List Char} (hname : ParenFree name)
    (hparams : Balanced params) (result : List Char) :
    (parse (bareResult name params result)).returns =
      Param.readList false (' ' :: dropOuterParens 0 result) := by
  rw [bareResult, parse_of_balanced hname hparams]
  rfl

/-- Results in parentheses are read as they stand in them. -/
theorem returns_groupedResult {name params result : List Char} (hname : ParenFree name)
    (hparams : Balanced params) (hresult : Balanced result) :
    (parse (groupedResult name params result)).returns =
      Param.readList false (' ' :: result) := by
  have hblank : AllBlank [' '] := by decide
  have hdrop : dropOuterParens 0 (' ' :: '(' :: (result ++ [')'])) = ' ' :: result :=
    dropOuterParens_group hblank hresult
  rw [groupedResult, parse_of_balanced hname hparams, hdrop]

/-- Parens around a single result change nothing exactly if the result has no parens of its own. -/
theorem returns_bare_eq_grouped_iff {name params result : List Char} (hname : ParenFree name)
    (hparams : Balanced params) (hresult : Balanced result) :
    let bare := parse (bareResult name params result)
    let grouped := parse (groupedResult name params result)
    (bare.returns = grouped.returns ↔ ParenFree result) ∧
      (ParenFree result → bare.key = grouped.key) := by
  intro bare grouped
  have hbare : bare.returns = Param.readList false (' ' :: dropOuterParens 0 result) :=
    returns_bareResult hname hparams result
  have hgrouped : grouped.returns = Param.readList false (' ' :: result) :=
    returns_groupedResult hname hparams hresult
  have hsame (hfree : ParenFree result) : bare.returns = grouped.returns := by
    rw [hbare, hgrouped, dropOuterParens_of_parenFree hfree]
  have hinside : bare.params = grouped.params := by
    simp only [bare, grouped, bareResult, groupedResult, parse_of_balanced hname hparams]
  refine ⟨⟨fun heq => ?_, hsame⟩, fun hfree => ?_⟩
  · -- Each reading keeps the parens of what it is given, and the bare one is given fewer.
    by_contra hparen
    have hlost := length_parens_dropOuterParens_lt hresult hparen
    have hblank (s : List Char) : parens (' ' :: s) = parens s := by simp [parens]
    have hparens : parens (dropOuterParens 0 result) = parens result := by
      rw [← hblank, ← Param.parens_readList, ← hbare, heq, hgrouped, Param.parens_readList, hblank]
    rw [hparens] at hlost
    exact Nat.lt_irrefl _ hlost
  · rw [key, key, hinside, hsame hfree]

/-- A function without a name loses its parens where none stand around it, and then the two
spellings have different keys. -/
theorem returns_bare_ne_grouped_function :
    ParenFree "Watch".toList ∧ Balanced "name string".toList ∧ "func()".toList ≠ [] ∧
      Param.IsPiece "func()".toList ∧ "func()".toList.head? ≠ some '(' ∧
      (parse "Watch(name string) func()").returns = [⟨none, "func", false, false⟩] ∧
      (parse "Watch(name string) (func())").returns = [⟨none, "func()", false, false⟩] ∧
      (parse "Watch(name string) func()").key ≠ (parse "Watch(name string) (func())").key := by
  decide

/-- Parens in the parameters do not matter, and those of a result do even where a name takes them
and the keys are the same. -/
theorem returns_bare_eq_grouped_iff_instances :
    ParenFree "Watch".toList ∧ Balanced "f func(a, b int), name string".toList ∧
      ParenFree "<-chan error".toList ∧ Balanced "func(int) error".toList ∧
      (parse "Watch(f func(a, b int), name string) <-chan error").returns =
        (parse "Watch(f func(a, b int), name string) (<-chan error)").returns ∧
      (parse "Watch(f func(a, b int), name string) func(int) error").returns ≠
        (parse "Watch(f func(a, b int), name string) (func(int) error)").returns := by
  have hname : ParenFree "Watch".toList := by decide
  have hparams : Balanced "f func(a, b int), name string".toList := by decide
  have hchannel : ParenFree "<-chan error".toList := by decide
  have hfunction : Balanced "func(int) error".toList := by decide
  refine ⟨hname, hparams, hchannel, hfunction, ?_, fun heq => ?_⟩
  · exact (returns_bare_eq_grouped_iff hname hparams hchannel.balanced).1.mpr hchannel
  · have hfree := (returns_bare_eq_grouped_iff hname hparams hfunction).1.mp heq
    exact absurd hfree (by decide)

end Method

end NearMiss
