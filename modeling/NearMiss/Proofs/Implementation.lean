import NearMiss.Proofs.Placement
import NearMiss.Proofs.Receiver

/-!
# Implementations of a known method

A corpus entry is read from the text of an interface, a method from a source line. This file ties
the two readings together: a line that declares a method with the parameters and results of an
entry, as they are written there, has the shape of the entry, whatever its receiver and its name. So
nothing is said about it under a name that an entry of that shape has, and under any other name the
name of the entry is proposed once, with the interface of the entry.
-/

namespace NearMiss

open Text

/-- The line that declares a method of a receiver: its name, what a signature has behind the name,
and the brace that opens the body. -/
def implementationLine (receiver name rest : List Char) : String :=
  String.ofList (receiverFront receiver ++ name ++ rest ++ [' ', '\x7b'])

/-- The name of a signature stands at its front. What stands behind it is found behind any name in
a line, because the brace of the line is the only thing taken off. -/
theorem exists_surrounds_of_signature {signature : String} (htrimmed : Trimmed signature.toList)
    (hexported : ∃ c ∈ signature.toList.head?, Declaration.isExported c = true)
    (hparams : (Method.parse signature).params ≠ []) :
    ∃ blank tail afterName,
      signature.toList = (Method.parse signature).name.toList ++ (blank ++ '(' :: afterName) ∧
      blank ++ '(' :: afterName ++ [' ', '\x7b'] = blank ++ '(' :: tail ∧
      (∀ receiver, Balanced receiver → Surrounds (receiverFront receiver) blank tail afterName) ∧
      (Method.parse signature).params = (Method.groups afterName).1 ∧
      (Method.parse signature).returns = (Method.groups afterName).2 := by
  obtain ⟨name, afterName, hopen⟩ := Method.exists_cutOpen?_of_params_ne_nil hparams
  have hbrace : Declaration.dropBrace (signature.toList ++ [' ', '\x7b']) = signature.toList := by
    have hgap : AllBlank [' '] := by decide
    have hbraced := Declaration.dropBrace_append_brace htrimmed.last hgap allBlank_nil
    rwa [List.append_assoc] at hbraced
  have hhead : ∃ c ∈ (signature.toList ++ [' ', '\x7b']).head?,
      Declaration.isExported c = true := by
    obtain ⟨c, hc, hexported⟩ := hexported
    exact ⟨c, by rw [List.head?_append, Option.mem_def.mp hc]; rfl, hexported⟩
  have hcut : Method.cutOpen? 0 (Declaration.dropBrace (signature.toList ++ [' ', '\x7b'])) =
      some (name, afterName) := by rwa [hbrace]
  obtain ⟨blank, tail, hblank, hafter, hdrop⟩ := exists_name_split hhead hcut
  have hparse := Method.parse_of_cutOpen? hopen
  have hname : (Method.parse signature).name.toList = trim name := by
    rw [hparse, String.toList_ofList]
  have hsignature : signature.toList = trim name ++ (blank ++ '(' :: afterName) := by
    rw [← hbrace, hafter, ← List.append_assoc, hdrop, List.append_assoc]
  refine ⟨blank, tail, afterName, by rwa [hname], ?_, fun receiver hreceiver => ?_, ?_, ?_⟩
  · rw [hsignature, List.append_assoc] at hafter
    exact List.append_cancel_left hafter
  · exact ⟨passes_receiverFront hreceiver, Int.le_of_eq (depth_receiverFront hreceiver), hblank,
      hdrop⟩
  · rw [hparse]
  · rw [hparse]

/-- A line that declares a method with the parameters and results of a signature has a candidate of
the signature's shape, under the name that the line gives it. -/
theorem exists_candidate_of_implementation {checker : Checker} (hkeyword : checker.keyword = "func")
    {signature : String} (htrimmed : Trimmed signature.toList)
    (hexported : ∃ c ∈ signature.toList.head?, Declaration.isExported c = true)
    (hworth : (Method.parse signature).isCandidate checker.minParams = true) :
    ∃ rest, signature.toList = (Method.parse signature).name.toList ++ rest ∧
      ∀ {receiver : List Char} {name : String}, Balanced receiver → IsName name.toList →
        ∃ found m,
          checker.candidate? (implementationLine receiver name.toList rest) = some (found, m) ∧
          m.name = name ∧ m.key = (Method.parse signature).key := by
  obtain ⟨blank, tail, afterName, hsignature, hrest, hsurrounds, hparams, hreturns⟩ :=
    exists_surrounds_of_signature htrimmed hexported (Method.params_ne_nil_of_isCandidate hworth)
  refine ⟨blank ++ '(' :: afterName, hsignature, fun {receiver name} hreceiver hname => ?_⟩
  have hline : implementationLine receiver name.toList (blank ++ '(' :: afterName) =
      String.ofList (receiverFront receiver ++ (name.toList ++ (blank ++ '(' :: tail))) := by
    rw [implementationLine, List.append_assoc, List.append_assoc, hrest]
  have hstarts : Declaration.startsWithKeyword
      (String.ofList (receiverFront receiver ++ (name.toList ++ (blank ++ '(' :: tail))))
      checker.keyword = true := by
    rw [hkeyword]
    exact startsWithKeyword_receiverFront receiver _
  have henough := (Method.isCandidate_iff.mp hworth).2
  rw [hparams] at henough
  obtain ⟨found, m, hcandidate, -, hmname, hmparams, hmreturns⟩ :=
    (hsurrounds receiver hreceiver).exists_candidate hname hstarts henough
  refine ⟨found, m, by rwa [hline], hmname, ?_⟩
  rw [Method.key, Method.key, hmparams, hmreturns, hparams, hreturns]

/-- A bucket proposes the name of an entry exactly once. -/
theorem Suggestion.filter_targetName_ofBucket {bucket : List InterfaceMethod}
    {entry : InterfaceMethod} (hentry : entry ∈ bucket) :
    ∃ s, (ofBucket bucket).filter (fun s => s.targetName = entry.name) = [s] ∧
      entry.source ∈ s.sources := by
  have hname : entry.name ∈ distinct (bucket.map (·.name)) :=
    mem_distinct.mpr (List.mem_map_of_mem hentry)
  have honce : (distinct (bucket.map (·.name))).count entry.name = 1 :=
    List.count_eq_one_of_mem (firstSeen_distinct _).nodup hname
  refine ⟨⟨entry.name, distinct ((bucket.filter fun other => other.name = entry.name).map
    InterfaceMethod.source)⟩, ?_, ?_⟩
  · rw [ofBucket_eq, List.filter_map]
    change List.map _ ((distinct (bucket.map (·.name))).filter fun name => name = entry.name) = _
    rw [List.filter_eq, honce]
    rfl
  · rw [mem_distinct]
    exact List.mem_map_of_mem (List.mem_filter.mpr ⟨hentry, by simp⟩)

namespace Checker

variable {checker : Checker} {corpus : List InterfaceMethod}

/-- Nothing is said about a candidate that has the name of an entry of its shape. -/
theorem diagnosticsOf_eq_nil (hindex : checker.index = Index.build corpus) {text : String}
    {found : Declaration} {m : Method} (hcandidate : checker.candidate? text = some (found, m))
    {entry : InterfaceMethod} (hentry : entry ∈ corpus) (hkey : entry.key = m.key)
    (hname : entry.name = m.name) (number : Nat) : checker.diagnosticsOf text number = [] := by
  have hown : ∃ entry ∈ sameShape corpus m, entry.name = m.name :=
    ⟨entry, List.mem_filter.mpr ⟨hentry, by simpa using hkey⟩, hname⟩
  simp only [diagnosticsOf, hcandidate, hindex, Suggestion.forMethod_build, if_pos hown,
    List.map_nil]

/-- The name of an entry is proposed once to a candidate of its shape, if no entry of that shape has
the name of the candidate. -/
theorem filter_target_diagnosticsOf (hindex : checker.index = Index.build corpus) {text : String}
    {found : Declaration} {m : Method} (hcandidate : checker.candidate? text = some (found, m))
    {entry : InterfaceMethod} (hentry : entry ∈ corpus) (hkey : entry.key = m.key)
    (hother : ∀ entry ∈ corpus, entry.key = m.key → entry.name ≠ m.name) (number : Nat) :
    ∃ d, (checker.diagnosticsOf text number).filter
        (fun d => d.suggestion.targetName = entry.name) = [d] ∧
      entry.source ∈ d.suggestion.sources ∧ d.methodName = m.name := by
  have hshape : entry ∈ sameShape corpus m := List.mem_filter.mpr ⟨hentry, by simpa using hkey⟩
  have hnone : ¬∃ entry ∈ sameShape corpus m, entry.name = m.name := by
    rintro ⟨other, hmem, hname⟩
    obtain ⟨hcorpus, hsame⟩ := List.mem_filter.mp hmem
    exact hother other hcorpus (by simpa using hsame) hname
  obtain ⟨s, hfilter, hsource⟩ := Suggestion.filter_targetName_ofBucket hshape
  refine ⟨placed number found m s, ?_, hsource, rfl⟩
  simp only [diagnosticsOf, hcandidate, hindex, Suggestion.forMethod_build, if_neg hnone,
    List.filter_map]
  change List.map _ ((Suggestion.ofBucket (sameShape corpus m)).filter
    fun s => s.targetName = entry.name) = _
  rw [hfilter]
  rfl

end Checker

/-- An exact implementation of a known method is never flagged, and a renamed one always is. Let a
corpus have an entry that was read from a signature worth comparing, and let a line declare a method
of any receiver with what the signature has behind its name. Nothing is said about the line if an
entry of that shape has the name given there, as it does if the name is the signature's own.
Otherwise the name of the signature is proposed exactly once, for the name in the line and with the
interface of the entry among its sources. -/
theorem Command.line_implementation (settings : Settings) (corpus : Corpus)
    (hkeyword : settings.declarationKeyword = "func") {package interface signature : String}
    (hentry : InterfaceMethod.ofSignature package interface signature ∈ corpus)
    (htrimmed : Trimmed signature.toList)
    (hexported : ∃ c ∈ signature.toList.head?, Declaration.isExported c = true)
    (hworth : (Method.parse signature).isCandidate settings.minParams = true) :
    let checker := checkerOf settings corpus
    let known := Method.parse signature
    ∃ rest, signature.toList = known.name.toList ++ rest ∧
      ∀ (receiver : List Char) (name : String) (number : Nat),
        Balanced receiver → IsName name.toList →
          let line := implementationLine receiver name.toList rest
          (name = known.name → checker.line line number = .ok []) ∧
            ((∃ entry ∈ corpus, entry.key = known.key ∧ entry.name = name) →
              checker.line line number = .ok []) ∧
            ((∀ entry ∈ corpus, entry.key = known.key → entry.name ≠ name) →
              ∃ diagnostics d, checker.line line number = .ok diagnostics ∧
                diagnostics.filter (fun d => d.suggestion.targetName = known.name) = [d] ∧
                ⟨package, interface⟩ ∈ d.suggestion.sources ∧ d.methodName = name) := by
  intro checker known
  have hindex : checker.index = Index.build corpus := rfl
  have hfunc : checker.keyword = "func" := hkeyword
  obtain ⟨rest, hsignature, hcandidates⟩ :=
    exists_candidate_of_implementation hfunc htrimmed hexported hworth
  refine ⟨rest, hsignature, fun receiver name number hreceiver hname => ?_⟩
  obtain ⟨found, m, hcandidate, rfl, hkey⟩ := hcandidates hreceiver hname
  have hline := Checker.line_eq_diagnosticsOf hindex
    (implementationLine receiver m.name.toList rest) number
  have hconforms (entry : InterfaceMethod) (hmem : entry ∈ corpus) (hshape : entry.key = known.key)
      (hown : entry.name = m.name) :
      checker.line (implementationLine receiver m.name.toList rest) number = .ok [] := by
    rw [hline, Checker.diagnosticsOf_eq_nil hindex hcandidate hmem (hshape.trans hkey.symm) hown]
  refine ⟨fun hsame => hconforms _ hentry rfl hsame.symm, ?_, fun hother => ?_⟩
  · rintro ⟨entry, hmem, hshape, hown⟩
    exact hconforms entry hmem hshape hown
  · obtain ⟨d, hfilter, hsource, hmethod⟩ := Checker.filter_target_diagnosticsOf hindex hcandidate
      hentry hkey.symm (fun entry hmem hshape => hother entry hmem (hshape.trans hkey)) number
    exact ⟨_, d, hline, hfilter, hsource, hmethod⟩

/-- A signature with a blank behind its name and a function type among its parameters. -/
def walkSignature : String := "Walk (root T, each func(a, b T)) error"

/-- A corpus with two names for one shape. -/
def walkCorpus : Corpus :=
  [.ofSignature "tree" "Tree" "Traverse(from T, do func(a, b T)) error",
    .ofSignature "fs" "Walker" walkSignature]

/-- An implementation is accepted, and under another name it gets a suggestion. -/
theorem Command.line_implementation_walk :
    InterfaceMethod.ofSignature "fs" "Walker" walkSignature ∈ walkCorpus ∧
      Trimmed walkSignature.toList ∧ (Method.parse walkSignature).isCandidate 1 = true ∧
      (checkerOf {} walkCorpus).line
        "func (t Tree[func(N)]) Walk (root T, each func(a, b T)) error \x7b" 7 = .ok [] ∧
      ∃ diagnostics d, (checkerOf {} walkCorpus).line
          "func (t Tree[func(N)]) Visit (root T, each func(a, b T)) error \x7b" 7 =
            .ok diagnostics ∧
        diagnostics.filter (fun d => d.suggestion.targetName = "Walk") = [d] ∧
        ⟨"fs", "Walker"⟩ ∈ d.suggestion.sources ∧ d.methodName = "Visit" := by
  have hentry : InterfaceMethod.ofSignature "fs" "Walker" walkSignature ∈ walkCorpus :=
    List.mem_cons_of_mem _ List.mem_cons_self
  have htrimmed : Trimmed walkSignature.toList := by decide
  have hworth : (Method.parse walkSignature).isCandidate 1 = true := by decide +kernel
  obtain ⟨rest, hsignature, hlines⟩ := line_implementation {} walkCorpus rfl hentry htrimmed
    ⟨'W', rfl, by decide⟩ hworth
  have hname : (Method.parse walkSignature).name = "Walk" := by decide +kernel
  have hrest : "Walk".toList ++ " (root T, each func(a, b T)) error".toList =
      "Walk".toList ++ rest := by
    rw [← hname, ← hsignature, hname]
    rfl
  obtain rfl := List.append_cancel_left hrest
  have hreceiver : Balanced "t Tree[func(N)]".toList := by decide
  have hown := (hlines _ "Walk" 7 hreceiver (by decide)).1 hname.symm
  have hother := (hlines _ "Visit" 7 hreceiver (by decide)).2.2 (by decide +kernel)
  rw [hname] at hother
  exact ⟨hentry, htrimmed, hworth, hown, hother⟩

end NearMiss
