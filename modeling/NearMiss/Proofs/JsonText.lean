import NearMiss.Proofs.JsonString

/-!
# Writing JSON and reading it back

A value of strings, truth values, arrays and objects is read back from its text. The printer lays
values out over lines, the reader skips the blanks of that layout and nothing else, and it never
runs out of steps, because every step takes up a character.
-/

namespace NearMiss.Json

/-- Values without numbers in which no object names a field twice. -/
inductive Plain : Json → Prop
  /-- `null`. -/
  | null : Plain .null
  /-- A truth value. -/
  | bool (b : Bool) : Plain (.bool b)
  /-- A string. -/
  | str (s : String) : Plain (.str s)
  /-- An array of such values. -/
  | arr {items : List Json} (hitems : ∀ item ∈ items, Plain item) : Plain (.arr items)
  /-- An object of such values. -/
  | obj {fields : List (String × Json)} (hnames : (fields.map Prod.fst).Nodup)
      (hfields : ∀ field ∈ fields, Plain field.2) : Plain (.obj fields)

/-! ## The layout -/

/-- How an array with items is printed. -/
theorem render_arr_cons (indent : Nat) (item : Json) (later : List Json) :
    render indent (.arr (item :: later)) =
      '[' :: (newLine (indent + 2) ++ (render (indent + 2) item ++
        (renderItems (indent + 2) later ++ (newLine indent ++ [']'])))) := by
  have hlayout : render indent (.arr (item :: later)) =
      '[' :: newLine (indent + 2) ++ render (indent + 2) item ++ renderItems (indent + 2) later ++
        newLine indent ++ [']'] := rfl
  simpa using hlayout

/-- How an object with fields is printed. -/
theorem render_obj_cons (indent : Nat) (field : String × Json) (later : List (String × Json)) :
    render indent (.obj (field :: later)) =
      '\x7b' :: (newLine (indent + 2) ++ (quote field.1 ++ (':' :: ' ' ::
        (render (indent + 2) field.2 ++ (renderFields (indent + 2) later ++
          (newLine indent ++ ['\x7d'])))))) := by
  have hlayout : render indent (.obj (field :: later)) =
      '\x7b' :: newLine (indent + 2) ++ quote field.1 ++ [':', ' '] ++
        render (indent + 2) field.2 ++ renderFields (indent + 2) later ++ newLine indent ++
          ['\x7d'] := rfl
  simpa using hlayout

/-- How further items are printed. -/
theorem renderItems_cons (indent : Nat) (item : Json) (later : List Json) :
    renderItems indent (item :: later) =
      ',' :: (newLine indent ++ (render indent item ++ renderItems indent later)) := by
  have hlayout : renderItems indent (item :: later) =
      ',' :: newLine indent ++ render indent item ++ renderItems indent later := rfl
  simpa using hlayout

/-- How further fields are printed. -/
theorem renderFields_cons (indent : Nat) (field : String × Json) (later : List (String × Json)) :
    renderFields indent (field :: later) =
      ',' :: (newLine indent ++ (quote field.1 ++ (':' :: ' ' :: (render indent field.2 ++
        renderFields indent later)))) := by
  have hlayout : renderFields indent (field :: later) =
      ',' :: newLine indent ++ quote field.1 ++ [':', ' '] ++ render indent field.2 ++
        renderFields indent later := rfl
  simpa using hlayout

/-- The characters with which the text of such a value begins. -/
def isOpening (c : Char) : Bool :=
  ['n', 't', 'f', '"', '[', '\x7b'].contains c

/-- Such a character is no blank, closes nothing and is no byte order mark. -/
theorem of_isOpening {c : Char} (hc : isOpening c = true) :
    isSpace c = false ∧ c ≠ ']' ∧ c ≠ '\x7d' ∧ c ≠ '\ufeff' := by
  have hlist : c = 'n' ∨ c = 't' ∨ c = 'f' ∨ c = '"' ∨ c = '[' ∨ c = '\x7b' := by
    simpa [isOpening] using hc
  rcases hlist with rfl | rfl | rfl | rfl | rfl | rfl <;> decide

/-- A value is printed with a character that opens one. -/
theorem Plain.exists_opening {v : Json} (hv : v.Plain) (indent : Nat) :
    ∃ c rest, render indent v = c :: rest ∧ isOpening c = true := by
  cases hv with
  | null => exact ⟨'n', _, rfl, rfl⟩
  | bool b =>
    cases b with
    | false => exact ⟨'f', _, rfl, rfl⟩
    | true => exact ⟨'t', _, rfl, rfl⟩
  | str s => exact ⟨'"', _, rfl, rfl⟩
  | @arr items hitems =>
    cases items with
    | nil => exact ⟨'[', _, rfl, rfl⟩
    | cons item later => exact ⟨'[', _, render_arr_cons indent item later, rfl⟩
  | @obj fields hnames hfields =>
    cases fields with
    | nil => exact ⟨'\x7b', _, rfl, rfl⟩
    | cons field later => exact ⟨'\x7b', _, render_obj_cons indent field later, rfl⟩

/-- An indented line begins with blanks. -/
theorem skipSpace_newLine (indent : Nat) (s : List Char) :
    skipSpace (newLine indent ++ s) = skipSpace s := by
  refine List.dropWhile_append_of_pos fun c hc => ?_
  rcases List.mem_cons.mp hc with rfl | hc
  · rfl
  · rw [List.eq_of_mem_replicate hc]
    rfl

/-- Nothing is skipped where there is no blank. -/
theorem skipSpace_cons {c : Char} (hc : isSpace c = false) (s : List Char) :
    skipSpace (c :: s) = c :: s := by
  rw [skipSpace, List.dropWhile_cons_of_neg (by simp [hc])]

/-! ## Steps of the reader -/

/-- A printed string is read again. -/
theorem value_str (fuel : Nat) (s : String) (rest : List Char) :
    value (fuel + 1) (quote s ++ rest) = .ok (.str s, rest) := by
  have hquote : quote s ++ rest = '"' :: (s.toList.flatMap escapeChar ++ '"' :: rest) := by
    simp [quote]
  have hstep (body : List Char) : value (fuel + 1) ('"' :: body) =
      stringBody body >>= fun found => .ok (.str found.1, found.2) := rfl
  rw [hquote, hstep, stringBody_escaped, ok_bind]

/-- A bracket opens an array whose items are read from the next character that is no blank. -/
theorem value_arr {fuel : Nat} {s t rest : List Char} {found : List Json}
    (hskip : skipSpace s = t) (hhead : t.head? ≠ some ']')
    (hfound : items fuel t = .ok (found, rest)) :
    value (fuel + 1) ('[' :: s) = .ok (.arr found, rest) := by
  rw [value, hskip]
  split
  · simp at hhead
  · rw [hfound]
    rfl

/-- A brace opens an object whose fields are read from the next character that is no blank. -/
theorem value_obj {fuel : Nat} {s t rest : List Char} {found : List (String × Json)}
    (hskip : skipSpace s = t) (hhead : t.head? ≠ some '\x7d')
    (hfound : members fuel [] t = .ok (found, rest)) :
    value (fuel + 1) ('\x7b' :: s) = .ok (.obj found, rest) := by
  rw [value, hskip]
  split
  · simp at hhead
  · rw [hfound]
    rfl

/-- The last item of an array stands before its bracket. -/
theorem items_last {fuel : Nat} {s t rest : List Char} {item : Json}
    (hitem : value fuel s = .ok (item, t)) (hskip : skipSpace t = ']' :: rest) :
    items (fuel + 1) s = .ok ([item], rest) := by
  simp only [items, hitem, ok_bind, hskip]
  rfl

/-- A comma parts an item from the items after it. -/
theorem items_more {fuel : Nat} {s t u rest : List Char} {item : Json} {later : List Json}
    (hitem : value fuel s = .ok (item, t)) (hskip : skipSpace t = ',' :: u)
    (hlater : items fuel (skipSpace u) = .ok (later, rest)) :
    items (fuel + 1) s = .ok (item :: later, rest) := by
  simp only [items, hitem, ok_bind, hskip, hlater]
  rfl

/-- A field is read up to its value; what follows the value decides how to go on. -/
theorem members_quote (fuel : Nat) (before : List (String × Json)) (name : String)
    (s : List Char) :
    members (fuel + 1) before (quote name ++ ':' :: s) =
      value fuel (skipSpace s) >>= fun (found, rest) =>
        match skipSpace rest with
        | '\x7d' :: rest => .ok (setField name found before, rest)
        | ',' :: rest => members fuel (setField name found before) (skipSpace rest)
        | rest => .error (.malformed .expectingComma rest.length) := by
  have hquote : quote name ++ ':' :: s =
      '"' :: (name.toList.flatMap escapeChar ++ '"' :: ':' :: s) := by
    simp [quote]
  have hcolon : skipSpace (':' :: s) = ':' :: s := skipSpace_cons rfl s
  simp only [hquote, members, stringBody_escaped, ok_bind, hcolon]
  rfl

/-- The last field of an object stands before its brace. -/
theorem members_last {fuel : Nat} {before : List (String × Json)} {name : String} {found : Json}
    {s t rest : List Char} (hvalue : value fuel (skipSpace s) = .ok (found, t))
    (hskip : skipSpace t = '\x7d' :: rest) :
    members (fuel + 1) before (quote name ++ ':' :: s) =
      .ok (setField name found before, rest) := by
  simp only [members_quote, hvalue, ok_bind, hskip]

/-- A comma parts a field from the fields after it. -/
theorem members_more {fuel : Nat} {before : List (String × Json)} {name : String} {found : Json}
    {s t u : List Char} (hvalue : value fuel (skipSpace s) = .ok (found, t))
    (hskip : skipSpace t = ',' :: u) :
    members (fuel + 1) before (quote name ++ ':' :: s) =
      members fuel (setField name found before) (skipSpace u) := by
  simp only [members_quote, hvalue, ok_bind, hskip]

/-- A new field comes last. -/
theorem setField_of_not_mem {name : String} {before : List (String × Json)}
    (hname : name ∉ before.map Prod.fst) (found : Json) :
    setField name found before = before ++ [(name, found)] := by
  induction before with
  | nil => rfl
  | cons field before ih =>
    rw [List.map_cons, List.mem_cons, not_or] at hname
    rw [setField, if_neg (Ne.symm hname.1), ih hname.2, List.cons_append]

/-! ## Reading back -/

/-- The value is read from its text, whatever follows, in as many steps as the text has
characters. -/
def ReadsBack (v : Json) : Prop :=
  ∀ (indent fuel : Nat) (rest : List Char), (render indent v).length ≤ fuel →
    value fuel (render indent v ++ rest) = .ok (v, rest)

/-- Nothing of a value is skipped. -/
theorem Plain.skipSpace_render {v : Json} (hv : v.Plain) (indent : Nat) (s : List Char) :
    skipSpace (render indent v ++ s) = render indent v ++ s := by
  obtain ⟨c, rest, hrender, hopening⟩ := hv.exists_opening indent
  rw [hrender, List.cons_append, skipSpace_cons (of_isOpening hopening).1]

/-- The bracket or brace that closes stands on a line of its own. -/
theorem skipSpace_newLine_cons (outer : Nat) {c : Char} (hc : isSpace c = false)
    (rest : List Char) : skipSpace (newLine outer ++ c :: rest) = c :: rest := by
  rw [skipSpace_newLine, skipSpace_cons hc]

/-- The items of an array are read back. The induction is on the items after the first; every item
takes a comma and a line feed more than its own text, which pays for the step that reads it. -/
theorem items_render {item : Json} {later : List Json}
    (hplain : ∀ v ∈ item :: later, v.Plain) (hreads : ∀ v ∈ item :: later, v.ReadsBack)
    {indent fuel : Nat}
    (hfuel : (render indent item).length + (renderItems indent later).length ≤ fuel)
    (outer : Nat) (rest : List Char) :
    items (fuel + 1)
        (render indent item ++ (renderItems indent later ++ (newLine outer ++ ']' :: rest))) =
      .ok (item :: later, rest) := by
  induction later generalizing item fuel with
  | nil =>
    have hitem := hreads item List.mem_cons_self indent fuel (newLine outer ++ ']' :: rest)
      (Nat.le_of_add_right_le hfuel)
    exact items_last hitem (skipSpace_newLine_cons outer rfl rest)
  | cons next later ih =>
    rw [renderItems_cons, List.length_cons, List.length_append, List.length_append] at hfuel
    obtain ⟨-, hplain⟩ := List.forall_mem_cons.mp hplain
    obtain ⟨hitem, hreads⟩ := List.forall_mem_cons.mp hreads
    have hcomma : skipSpace (renderItems indent (next :: later) ++
        (newLine outer ++ ']' :: rest)) = ',' :: (newLine indent ++ (render indent next ++
          (renderItems indent later ++ (newLine outer ++ ']' :: rest)))) := by
      rw [renderItems_cons, List.cons_append, skipSpace_cons rfl, List.append_assoc,
        List.append_assoc]
    refine items_more (hitem indent fuel _ (by omega)) hcomma ?_
    rw [skipSpace_newLine, (hplain next List.mem_cons_self).skipSpace_render]
    obtain ⟨fuel, rfl⟩ := Nat.exists_eq_succ_of_ne_zero (show fuel ≠ 0 by omega)
    exact ih hplain hreads (by omega)

/-- A field whose name is not among those before it comes last. -/
theorem setField_of_nodup {field : String × Json} {before later : List (String × Json)}
    (hnames : ((before ++ field :: later).map Prod.fst).Nodup) :
    setField field.1 field.2 before = before ++ [field] := by
  rw [List.map_append, List.nodup_append] at hnames
  exact setField_of_not_mem (fun hmem => hnames.2.2 _ hmem _ List.mem_cons_self rfl) field.2

/-- The value of a field is read behind the blank that follows the colon. -/
theorem value_blank_render {v : Json} (hplain : v.Plain) (hreads : v.ReadsBack)
    {indent fuel : Nat} (hfuel : (render indent v).length ≤ fuel) (rest : List Char) :
    value fuel (skipSpace (' ' :: (render indent v ++ rest))) = .ok (v, rest) := by
  have hblank : skipSpace (' ' :: (render indent v ++ rest)) = render indent v ++ rest :=
    hplain.skipSpace_render indent rest
  rw [hblank, hreads indent fuel rest hfuel]

/-- The fields of an object are read back behind those that were read before. The induction is that
of the items; a name that is new is added at the end. -/
theorem members_render {field : String × Json} {later : List (String × Json)}
    (hplain : ∀ f ∈ field :: later, f.2.Plain) (hreads : ∀ f ∈ field :: later, f.2.ReadsBack)
    {before : List (String × Json)}
    (hnames : ((before ++ field :: later).map Prod.fst).Nodup) {indent fuel : Nat}
    (hfuel : (render indent field.2).length + (renderFields indent later).length ≤ fuel)
    (outer : Nat) (rest : List Char) :
    members (fuel + 1) before (quote field.1 ++ (':' :: ' ' :: (render indent field.2 ++
        (renderFields indent later ++ (newLine outer ++ '\x7d' :: rest))))) =
      .ok (before ++ field :: later, rest) := by
  induction later generalizing field before fuel with
  | nil =>
    have hvalue := value_blank_render (hplain field List.mem_cons_self)
      (hreads field List.mem_cons_self) (Nat.le_of_add_right_le hfuel)
      (newLine outer ++ '\x7d' :: rest)
    rw [← setField_of_nodup hnames]
    exact members_last hvalue (skipSpace_newLine_cons outer rfl rest)
  | cons next later ih =>
    rw [renderFields_cons, List.length_cons, List.length_append, List.length_append,
      List.length_cons, List.length_cons, List.length_append] at hfuel
    obtain ⟨hfield, hplain⟩ := List.forall_mem_cons.mp hplain
    obtain ⟨hfieldReads, hreads⟩ := List.forall_mem_cons.mp hreads
    have hcomma : skipSpace (renderFields indent (next :: later) ++
        (newLine outer ++ '\x7d' :: rest)) = ',' :: (newLine indent ++ (quote next.1 ++
          (':' :: ' ' :: (render indent next.2 ++ (renderFields indent later ++
            (newLine outer ++ '\x7d' :: rest)))))) := by
      rw [renderFields_cons, List.cons_append, skipSpace_cons rfl]
      simp only [List.append_assoc, List.cons_append]
    have hquote (s : List Char) : skipSpace (quote next.1 ++ s) = quote next.1 ++ s :=
      skipSpace_cons rfl _
    rw [members_more (value_blank_render hfield hfieldReads (by omega) _) hcomma,
      setField_of_nodup hnames, skipSpace_newLine, hquote]
    obtain ⟨fuel, rfl⟩ := Nat.exists_eq_succ_of_ne_zero (show fuel ≠ 0 by omega)
    have hlater : (render indent next.2).length + (renderFields indent later).length ≤ fuel := by
      omega
    rw [List.append_cons before field (next :: later)] at hnames ⊢
    exact ih hplain hreads hnames hlater

/-- There is something to read in what is printed. -/
theorem Plain.exists_fuel {v : Json} (hv : v.Plain) {indent fuel : Nat}
    (hfuel : (render indent v).length ≤ fuel) : ∃ steps, fuel = steps + 1 := by
  obtain ⟨c, rest, hrender, -⟩ := hv.exists_opening indent
  rw [hrender, List.length_cons] at hfuel
  exact ⟨fuel - 1, by omega⟩

/-- Every value of this kind is read back. -/
theorem Plain.readsBack {v : Json} (hv : v.Plain) : v.ReadsBack := by
  induction hv with
  | null =>
    intro indent fuel rest hfuel
    obtain ⟨fuel, rfl⟩ := Plain.null.exists_fuel hfuel
    rfl
  | bool b =>
    intro indent fuel rest hfuel
    obtain ⟨fuel, rfl⟩ := (Plain.bool b).exists_fuel hfuel
    cases b <;> rfl
  | str s =>
    intro indent fuel rest hfuel
    obtain ⟨fuel, rfl⟩ := (Plain.str s).exists_fuel hfuel
    exact value_str fuel s rest
  | @arr items hitems ih =>
    intro indent fuel rest hfuel
    obtain ⟨fuel, rfl⟩ := (Plain.arr hitems).exists_fuel hfuel
    cases items with
    | nil => rfl
    | cons item later =>
      have hitem := hitems item List.mem_cons_self
      rw [render_arr_cons] at hfuel ⊢
      simp only [List.length_cons, List.length_append, List.length_nil] at hfuel
      -- The brackets pay for two steps: the one that opens the array and the one to its items.
      obtain ⟨fuel, rfl⟩ := Nat.exists_eq_succ_of_ne_zero (show fuel ≠ 0 by omega)
      have henough : (render (indent + 2) item).length + (renderItems (indent + 2) later).length ≤
          fuel := by omega
      simp only [List.cons_append, List.append_assoc, List.nil_append]
      refine value_arr ?_ ?_ (items_render hitems ih henough indent rest)
      · rw [skipSpace_newLine, hitem.skipSpace_render]
      · obtain ⟨c, tail, hrender, hopening⟩ := hitem.exists_opening (indent + 2)
        simpa [hrender] using (of_isOpening hopening).2.1
  | @obj fields hnames hfields ih =>
    intro indent fuel rest hfuel
    obtain ⟨fuel, rfl⟩ := (Plain.obj hnames hfields).exists_fuel hfuel
    cases fields with
    | nil => rfl
    | cons field later =>
      rw [render_obj_cons] at hfuel ⊢
      simp only [List.length_cons, List.length_append, List.length_nil] at hfuel
      obtain ⟨fuel, rfl⟩ := Nat.exists_eq_succ_of_ne_zero (show fuel ≠ 0 by omega)
      have henough : (render (indent + 2) field.2).length +
          (renderFields (indent + 2) later).length ≤ fuel := by omega
      simp only [List.cons_append, List.append_assoc, List.nil_append]
      refine value_obj ?_ ?_ (members_render hfields ih hnames henough indent rest)
      · rw [skipSpace_newLine]
        exact skipSpace_cons rfl _
      · simp [quote]

/-- A value of this kind is read from its text, also if blanks follow. -/
theorem Plain.parseText_render {v : Json} (hv : v.Plain) {rest : List Char}
    (hrest : skipSpace rest = []) : parseText (render 0 v ++ rest) = .ok v := by
  obtain ⟨c, tail, hrender, hopening⟩ := hv.exists_opening 0
  have hread := hv.readsBack 0 (2 * (render 0 v ++ rest).length + 2) rest (by simp; omega)
  have hskip := hv.skipSpace_render 0 rest
  have hmark : ∀ s, render 0 v ++ rest ≠ '\ufeff' :: s := by
    intro s heq
    rw [hrender] at heq
    exact (of_isOpening hopening).2.2.2 (List.cons.inj heq).1
  rw [parseText]
  · rw [hskip, hread, ok_bind]
    simp only [hrest]
    rfl
  · exact hmark

/-- What is printed is parsed again. -/
theorem Plain.parse_pretty {v : Json} (hv : v.Plain) : parse v.pretty = .ok v := by
  have htext := hv.parseText_render (rfl : skipSpace [] = [])
  rw [List.append_nil] at htext
  simp only [parse, pretty, String.toList_ofList, htext]

/-- A printed text ends in a line feed, which is no part of the value. -/
theorem Plain.parse_pretty_newline {v : Json} (hv : v.Plain) :
    parse (v.pretty ++ "\n") = .ok v := by
  have htext := hv.parseText_render (rfl : skipSpace ['\n'] = [])
  have hlist : (v.pretty ++ "\n").toList = render 0 v ++ ['\n'] := by
    rw [String.toList_append, pretty, String.toList_ofList]
    rfl
  simp only [parse, hlist, htext]

/-! ## Carriage returns -/

/-- No line is ended with a carriage return. -/
theorem not_mem_newLine (indent : Nat) : '\r' ∉ newLine indent := by
  simp [newLine]

/-- No carriage return is printed between items. -/
theorem not_mem_renderItems {items : List Json} {indent : Nat}
    (hitems : ∀ item ∈ items, '\r' ∉ render indent item) : '\r' ∉ renderItems indent items := by
  induction items with
  | nil => exact List.not_mem_nil
  | cons item later ih =>
    obtain ⟨hitem, hlater⟩ := List.forall_mem_cons.mp hitems
    simp [renderItems_cons, not_mem_newLine, hitem, ih hlater]

/-- No carriage return is printed between fields. -/
theorem not_mem_renderFields {fields : List (String × Json)} {indent : Nat}
    (hfields : ∀ field ∈ fields, '\r' ∉ render indent field.2) :
    '\r' ∉ renderFields indent fields := by
  induction fields with
  | nil => exact List.not_mem_nil
  | cons field later ih =>
    obtain ⟨hfield, hlater⟩ := List.forall_mem_cons.mp hfields
    simp [renderFields_cons, not_mem_newLine, not_mem_quote, hfield, ih hlater]

/-- No value of this kind is written with a carriage return. -/
theorem Plain.not_mem_render {v : Json} (hv : v.Plain) (indent : Nat) : '\r' ∉ render indent v := by
  induction hv generalizing indent with
  | null => exact of_decide_eq_true rfl
  | bool b => cases b <;> exact of_decide_eq_true rfl
  | str s => exact not_mem_quote s
  | @arr items hitems ih =>
    cases items with
    | nil => exact of_decide_eq_true rfl
    | cons item later =>
      obtain ⟨hitem, hlater⟩ := List.forall_mem_cons.mp ih
      have hrest := not_mem_renderItems fun next hnext => hlater next hnext (indent + 2)
      simp [render_arr_cons, not_mem_newLine, hitem, hrest]
  | @obj fields hnames hfields ih =>
    cases fields with
    | nil => exact of_decide_eq_true rfl
    | cons field later =>
      obtain ⟨hfield, hlater⟩ := List.forall_mem_cons.mp ih
      have hrest := not_mem_renderFields fun next hnext => hlater next hnext (indent + 2)
      simp [render_obj_cons, not_mem_newLine, not_mem_quote, hfield, hrest]

end NearMiss.Json
