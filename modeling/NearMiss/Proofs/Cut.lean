import NearMiss.Declaration
import NearMiss.Method
import NearMiss.Proofs.Blank
import NearMiss.Proofs.Depth

/-!
# Where a declaration is cut

The declaration of a line, the name of a method and its parameters are all found by a walk that
stops once. This file says where each walk stops: the text before the cut is passed over, and the
character at the cut is one that the walk looks for. The parens around results and the brace at the
end of a line are taken off without touching what stands between.
-/

namespace NearMiss

open Text

namespace Text

/-- Cuts a text before the first character at which a walk stops. -/
def cutAt? (stop : Int → Char → Bool) (level : Int) :
    List Char → Option (List Char × List Char)
  | [] => none
  | c :: rest =>
    if stop level c then some ([], c :: rest)
    else (cutAt? stop (level + turn c) rest).map fun (before, after) => (c :: before, after)

/-- A cut passes over what stands before it, and the walk stops at the character after it. -/
theorem cutAt?_eq_some_iff {stop : Int → Char → Bool} {level : Int} {s before after : List Char} :
    cutAt? stop level s = some (before, after) ↔
      s = before ++ after ∧ Passes stop level before ∧
        ∃ c ∈ after.head?, stop (level + depth before) c = true := by
  induction s generalizing level before after with
  | nil =>
    simp only [cutAt?, reduceCtorEq, false_iff, not_and]
    rintro hnil - ⟨c, hc, -⟩
    obtain ⟨-, rfl⟩ := List.append_eq_nil_iff.mp hnil.symm
    simp at hc
  | cons c s ih =>
    by_cases hstop : stop level c = true
    · simp only [cutAt?, hstop, if_true, Option.some.injEq, Prod.mk.injEq]
      constructor
      · rintro ⟨rfl, rfl⟩
        simpa using hstop
      · rintro ⟨heq, hpass, -⟩
        cases before with
        | nil => exact ⟨rfl, heq⟩
        | cons b before =>
          obtain ⟨rfl, -⟩ := List.cons.inj heq
          simp [hstop] at hpass
    · simp only [cutAt?, hstop, if_neg, Bool.false_eq_true, not_false_eq_true,
        Option.map_eq_some_iff, Prod.mk.injEq, Prod.exists, ih]
      constructor
      · rintro ⟨b, a, ⟨rfl, hpass, hc⟩, rfl, rfl⟩
        refine ⟨rfl, by simpa [hstop] using hpass, ?_⟩
        rwa [depth_cons, ← Int.add_assoc]
      · rintro ⟨heq, hpass, d, hd, hstopd⟩
        cases before with
        | nil =>
          rw [List.nil_append] at heq
          rw [← heq, List.head?_cons, Option.mem_some_iff] at hd
          subst hd
          simp [hstop] at hstopd
        | cons b before =>
          obtain ⟨rfl, rfl⟩ := List.cons.inj heq
          rw [depth_cons, ← Int.add_assoc] at hstopd
          exact ⟨before, after, ⟨rfl, (passes_cons.mp hpass).2, d, hd, hstopd⟩, rfl, rfl⟩

/-- There is no cut exactly if the whole text is passed over. -/
theorem cutAt?_eq_none_iff {stop : Int → Char → Bool} {level : Int} {s : List Char} :
    cutAt? stop level s = none ↔ Passes stop level s := by
  induction s generalizing level with
  | nil => simp [cutAt?]
  | cons c s ih =>
    rw [cutAt?, passes_cons]
    by_cases hstop : stop level c = true
    · simp [hstop]
    · rw [if_neg hstop, Option.map_eq_none_iff, ih]
      simp [hstop]

/-- A cut past the one character looked for. -/
theorem cutAt?_looksFor_eq_some_iff {mark : Char} {goal level : Int}
    {s before after : List Char} :
    (cutAt? (looksFor mark goal) level s).map (fun (before, after) => (before, after.tail)) =
        some (before, after) ↔
      s = before ++ mark :: after ∧ Passes (looksFor mark goal) level before ∧
        level + depth before = goal := by
  simp only [Option.map_eq_some_iff, Prod.exists, Prod.mk.injEq, cutAt?_eq_some_iff,
    looksFor_eq_true]
  constructor
  · rintro ⟨b, a, ⟨rfl, hpass, c, hc, rfl, hlevel⟩, rfl, rfl⟩
    rw [List.cons_head?_tail hc]
    exact ⟨rfl, hpass, hlevel⟩
  · rintro ⟨rfl, hpass, hlevel⟩
    exact ⟨before, mark :: after, ⟨rfl, hpass, mark, rfl, rfl, hlevel⟩, rfl, rfl⟩

end Text

namespace Declaration

/-- A text without exported letters. -/
def ExportFree (s : List Char) : Prop :=
  ∀ c ∈ s, isExported c = false

instance (s : List Char) : Decidable (ExportFree s) :=
  List.decidableBAll (fun c => isExported c = false) s

/-- A declaration begins at an exported letter outside parens. -/
def begins (level : Int) (c : Char) : Bool :=
  level ≤ 0 && isExported c

/-- No declaration begins in a text without exported letters. -/
theorem ExportFree.passes {s : List Char} (hs : ExportFree s) (level : Int) :
    Passes begins level s :=
  passes_of_forall fun c hc l => by simp [begins, hs c hc]

/-- A declaration is cut off where a name begins. -/
theorem cut?_eq_cutAt? (level : Int) (s : List Char) : cut? level s = cutAt? begins level s := by
  induction s generalizing level with
  | nil => rfl
  | cons c s ih => rw [cut?, cutAt?, ih, begins]

/-- A line is cut at its first exported letter outside parens. -/
theorem cut?_eq_some_iff {level : Int} {s before after : List Char} :
    cut? level s = some (before, after) ↔
      s = before ++ after ∧ Passes begins level before ∧
        ∃ c ∈ after.head?, begins (level + depth before) c = true := by
  rw [cut?_eq_cutAt?, cutAt?_eq_some_iff]

/-- A line has no declaration exactly if it is passed over to its end. -/
theorem cut?_eq_none_iff {level : Int} {s : List Char} :
    cut? level s = none ↔ Passes begins level s := by
  rw [cut?_eq_cutAt?, cutAt?_eq_none_iff]

/-- A name outside parens is where the line is cut, if no declaration begins before it. -/
theorem cut?_before_name {before name : List Char} (hpasses : Passes begins 0 before)
    (houtside : depth before ≤ 0) (hname : ∃ c ∈ name.head?, isExported c = true)
    (rest : List Char) : cut? 0 (before ++ (name ++ rest)) = some (before, name ++ rest) := by
  obtain ⟨c, hc, hexported⟩ := hname
  refine cut?_eq_some_iff.mpr ⟨rfl, hpasses, c, ?_, ?_⟩
  · rw [List.head?_append, Option.mem_def.mp hc]
    rfl
  · simpa [begins, hexported] using houtside

/-- The declaration of a line is cut off where its name begins and before its brace. -/
theorem locate?_eq_some_iff {line : String} {found : Declaration} :
    locate? line = some found ↔
      ∃ before after, cut? 0 line.toList = some (before, after) ∧
        found = ⟨before.length, String.ofList (dropBrace after)⟩ := by
  simp only [locate?, Option.map_eq_some_iff, Prod.exists]
  constructor
  · rintro ⟨before, after, hcut, rfl⟩
    exact ⟨before, after, hcut, rfl⟩
  · rintro ⟨before, after, hcut, rfl⟩
    exact ⟨before, after, hcut, rfl⟩

/-- Taking off the brace at the end does not reach past a character that is neither blank nor
brace. -/
theorem dropBrace_append_cons {c : Char} (hblank : isBlank c = false) (hbrace : c ≠ '\x7b')
    (s t : List Char) : dropBrace (s ++ c :: t) = s ++ dropBrace (c :: t) := by
  obtain ⟨kept, hkept⟩ := exists_trimRight_cons hblank t
  have hlast : (s ++ c :: kept).getLast? = (c :: kept).getLast? :=
    List.getLast?_append_of_ne_nil _ (by simp)
  have hdrop : (s ++ c :: kept).dropLast = s ++ (c :: kept).dropLast :=
    List.dropLast_append_of_ne_nil (by simp)
  simp only [dropBrace, trimRight_append_cons hblank, hkept, hlast, hdrop]
  split
  · next heq =>
    cases kept with
    | nil => exact absurd (by simpa using heq) hbrace
    | cons d kept =>
      rw [List.dropLast_cons_cons, trimRight_append_cons hblank]
  · rfl

/-- What is kept stands in front of the brace. -/
theorem dropBrace_prefix (s : List Char) : dropBrace s <+: s := by
  have htrim (t : List Char) : trimRight t <+: t := by
    obtain ⟨blank, -, ht⟩ := exists_trimRight_append t
    exact ⟨blank, ht.symm⟩
  simp only [dropBrace]
  split
  · exact (htrim _).trans ((List.dropLast_prefix _).trans (htrim s))
  · exact htrim s

/-- A text that does not end in a blank is found again before a brace with blanks around it. -/
theorem dropBrace_append_brace {s before after : List Char}
    (hs : ∀ c ∈ s.getLast?, isBlank c = false) (hbefore : AllBlank before)
    (hafter : AllBlank after) : dropBrace (s ++ before ++ '\x7b' :: after) = s := by
  have hkept : trimRight (s ++ before ++ '\x7b' :: after) = s ++ before ++ ['\x7b'] := by
    rw [← List.singleton_append, ← List.append_assoc, trimRight_append_of_allBlank hafter]
    exact trimRight_eq_self (by simp; decide)
  simp only [dropBrace, hkept, List.getLast?_concat, List.dropLast_concat]
  rw [trimRight_append_of_allBlank hbefore, trimRight_eq_self hs]

end Declaration

namespace Method

/-- The opening parenthesis is looked for at level zero. -/
theorem cutOpen?_eq_cutAt? (level : Int) (s : List Char) :
    cutOpen? level s =
      (cutAt? (looksFor '(' 0) level s).map fun (before, after) => (before, after.tail) := by
  induction s generalizing level with
  | nil => rfl
  | cons c s ih =>
    by_cases hc : c = '(' ∧ level = 0
    · simp [cutOpen?, cutAt?, hc]
    · rw [cutOpen?, if_neg hc, ih, cutAt?, looksFor_eq_false.mpr hc]
      simp [Function.comp_def]

/-- The closing parenthesis is looked for at level one. -/
theorem cutClose?_eq_cutAt? (level : Int) (s : List Char) :
    cutClose? level s =
      (cutAt? (looksFor ')' 1) level s).map fun (before, after) => (before, after.tail) := by
  induction s generalizing level with
  | nil => rfl
  | cons c s ih =>
    by_cases hc : c = ')' ∧ level = 1
    · simp [cutClose?, cutAt?, hc]
    · rw [cutClose?, if_neg hc, ih, cutAt?, looksFor_eq_false.mpr hc]
      simp [Function.comp_def]

/-- The name of a method ends at the first paren that leads from depth zero to one. -/
theorem cutOpen?_eq_some_iff {level : Int} {s before after : List Char} :
    cutOpen? level s = some (before, after) ↔
      s = before ++ '(' :: after ∧ Passes (looksFor '(' 0) level before ∧
        level + depth before = 0 := by
  rw [cutOpen?_eq_cutAt?, cutAt?_looksFor_eq_some_iff]

/-- A group ends at the first paren that leads from depth one to zero. -/
theorem cutClose?_eq_some_iff {level : Int} {s before after : List Char} :
    cutClose? level s = some (before, after) ↔
      s = before ++ ')' :: after ∧ Passes (looksFor ')' 1) level before ∧
        level + depth before = 1 := by
  rw [cutClose?_eq_cutAt?, cutAt?_looksFor_eq_some_iff]

/-- There is no outer opening parenthesis if none is passed at level zero. -/
theorem cutOpen?_eq_none_iff {level : Int} {s : List Char} :
    cutOpen? level s = none ↔ Passes (looksFor '(' 0) level s := by
  rw [cutOpen?_eq_cutAt?, Option.map_eq_none_iff, cutAt?_eq_none_iff]

/-- There is no matching closing parenthesis if none is passed at level one. -/
theorem cutClose?_eq_none_iff {level : Int} {s : List Char} :
    cutClose? level s = none ↔ Passes (looksFor ')' 1) level s := by
  rw [cutClose?_eq_cutAt?, Option.map_eq_none_iff, cutAt?_eq_none_iff]

/-- A group is closed by the paren after its balanced inside. -/
theorem cutClose?_balanced {inside : List Char} (hinside : Balanced inside) (after : List Char) :
    cutClose? 1 (inside ++ ')' :: after) = some (inside, after) := by
  rw [cutClose?_eq_some_iff]
  exact ⟨rfl, hinside.passes_close, by rw [hinside.total, Int.add_zero]⟩

/-- Outer parentheses are dropped from both parts of a text, each at its own level. -/
theorem dropOuterParens_append (level : Int) (s t : List Char) :
    dropOuterParens level (s ++ t) =
      dropOuterParens level s ++ dropOuterParens (level + depth s) t := by
  induction s generalizing level with
  | nil => simp [dropOuterParens]
  | cons c s ih =>
    rw [List.cons_append, dropOuterParens, dropOuterParens, ih, depth_cons, Int.add_assoc]
    split <;> rfl

/-- A text that holds no outermost paren is kept as it is. -/
theorem dropOuterParens_of_passes {level : Int} {s : List Char}
    (hopens : Passes (looksFor '(' 0) level s)
    (hcloses : Passes (looksFor ')' 1) level s) : dropOuterParens level s = s := by
  induction s generalizing level with
  | nil => rfl
  | cons c s ih =>
    obtain ⟨hopen, hopens⟩ := passes_cons.mp hopens
    obtain ⟨hclose, hcloses⟩ := passes_cons.mp hcloses
    have hkept : ¬((c = '(' ∧ level = 0) ∨ (c = ')' ∧ level = 1)) :=
      not_or.mpr ⟨looksFor_eq_false.mp hopen, looksFor_eq_false.mp hclose⟩
    rw [dropOuterParens, if_neg hkept, ih hopens hcloses]

/-- A text without parentheses keeps all its characters. -/
theorem dropOuterParens_of_parenFree {level : Int} {s : List Char} (hs : ParenFree s) :
    dropOuterParens level s = s := by
  refine dropOuterParens_of_passes ?_ ?_
  · exact passes_of_forall fun c hc l => by simp [(hs c hc).1]
  · exact passes_of_forall fun c hc l => by simp [(hs c hc).2]

/-- The parens around a balanced text are taken off, and none of those inside. -/
theorem dropOuterParens_balanced {inside : List Char} (hinside : Balanced inside) :
    dropOuterParens 0 ('(' :: (inside ++ [')'])) = inside := by
  have hopens : Passes (looksFor '(' 0) 1 inside :=
    hinside.passes fun l c hstop => Or.inl (by rw [(looksFor_eq_true.mp hstop).2]; decide)
  have hopened : dropOuterParens 0 ('(' :: (inside ++ [')'])) =
      dropOuterParens 1 (inside ++ [')']) := by
    simp [dropOuterParens]
  rw [hopened, dropOuterParens_append, hinside.total,
    dropOuterParens_of_passes hopens hinside.passes_close]
  simp [dropOuterParens]

/-- Blanks before the parens are kept. -/
theorem dropOuterParens_group {gap inside : List Char} (hgap : AllBlank gap)
    (hinside : Balanced inside) :
    dropOuterParens 0 (gap ++ '(' :: (inside ++ [')'])) = gap ++ inside := by
  rw [dropOuterParens_append, hgap.parenFree.depth_eq_zero,
    dropOuterParens_of_parenFree hgap.parenFree, Int.add_zero, dropOuterParens_balanced hinside]

/-- A name without parens ends at the first paren. -/
theorem cutOpen?_parenFree {name : List Char} (hname : ParenFree name) (rest : List Char) :
    cutOpen? 0 (name ++ '(' :: rest) = some (name, rest) := by
  refine cutOpen?_eq_some_iff.mpr ⟨rfl, passes_of_forall fun c hc l => ?_, ?_⟩
  · rw [looksFor_eq_false]
    exact fun h => (hname c hc).1 h.1
  · rw [hname.depth_eq_zero, Int.add_zero]

/-- A method keeps the signature that it is read from. -/
@[simp]
theorem signature_parse (signature : String) : (parse signature).signature = signature := by
  rw [parse]
  split
  · rfl
  · split
    · rfl
    · rfl

/-- The parameters and the results that are read behind the paren that ends a name. -/
def groups (afterName : List Char) : List Param × List Param :=
  match cutClose? 1 afterName with
  | none => ([], [])
  | some (params, afterParams) =>
    (Param.readList true params, Param.readList false (dropOuterParens 0 afterParams))

/-- What is read behind the name does not depend on the name. -/
theorem parse_of_cutOpen? {signature : String} {name afterName : List Char}
    (h : cutOpen? 0 signature.toList = some (name, afterName)) :
    parse signature =
      ⟨signature, String.ofList (trim name), (groups afterName).1, (groups afterName).2⟩ := by
  simp only [parse, h, groups]
  cases cutClose? 1 afterName with
  | none => rfl
  | some cut => rfl

/-- A declaration with balanced parameters behind a name without parens, in parts. -/
theorem parse_of_balanced {name params : List Char} (hname : ParenFree name)
    (hparams : Balanced params) (rest : List Char) :
    parse (String.ofList (name ++ '(' :: (params ++ ')' :: rest))) =
      { signature := String.ofList (name ++ '(' :: (params ++ ')' :: rest))
        name := String.ofList (trim name)
        params := Param.readList true params
        returns := Param.readList false (dropOuterParens 0 rest) } := by
  simp only [parse, String.toList_ofList, cutOpen?_parenFree hname, cutClose?_balanced hparams]

/-- A method with parameters has a paren that ends its name. -/
theorem exists_cutOpen?_of_params_ne_nil {signature : String}
    (h : (parse signature).params ≠ []) :
    ∃ name afterName, cutOpen? 0 signature.toList = some (name, afterName) := by
  cases hcut : cutOpen? 0 signature.toList with
  | none => simp [parse, hcut] at h
  | some cut => exact ⟨cut.1, cut.2, rfl⟩

end Method

end NearMiss
