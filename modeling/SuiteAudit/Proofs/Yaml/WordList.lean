import SuiteAudit.Proofs.Yaml.ListTokens
import SuiteAudit.Yaml.TextList
/-!
# YAML — a list of words is read back

The tokens of a list become the events of a sequence, one scalar for each entry
(`serveAll_entryTokens`), and these are the nodes of a document that nothing follows. Its texts
are the words of the list, each as it was written and in the order of the lines
(`readTextList_listText`).
-/

namespace SuiteAudit.Yaml

variable {word : List Char} {words : List (List Char)} {mark since : Mark} {names : Names}
variable {handles : TagHandles}

/-- The events of a list from an entry on, with the one that ends it. -/
def entryEvents (mark : Mark) : List (List Char) → List Event
  | [] => [.sequenceEnd]
  | word :: words =>
    .scalar none none word true (mark.advance ['-', ' ']) ::
      entryEvents (mark.behindEntry word) words

/-- The events of a list. -/
def listEvents (words : List (List Char)) : List Event :=
  .sequenceStart none .start :: entryEvents .start words

/-! ## Events -/

/-- An entry of a list is a scalar. -/
theorem serve_entry {rest : List Token} {behind : Mark} :
    (Expectation.entry since).serve handles []
        (⟨.blockEntry, mark⟩ :: ⟨.scalar word true, behind⟩ :: rest) =
      .ok ⟨[.scalar none none word true behind], [.entry since], rest⟩ := rfl

/-- The document of a list is a sequence. -/
theorem serve_listTokens :
    (Expectation.node true false).serve handles [] (listTokens words) =
      .ok ⟨[.sequenceStart none .start], [.entry .start], entryTokens .start words⟩ := rfl

/-- **The entries of a list are served as their events**, up to the end of the text. -/
theorem serveAll_entryTokens {fuel : Nat} (hfuel : words.length + 1 < fuel) :
    ∃ behind, serveAll fuel handles [.entry since] (entryTokens mark words) =
      (entryEvents mark words, .ok [⟨.streamEnd, behind⟩]) := by
  induction words generalizing mark fuel with
  | nil =>
    obtain ⟨fuel, rfl⟩ := Nat.exists_eq_add_of_le' hfuel
    exact ⟨mark, rfl⟩
  | cons word words ih =>
    obtain ⟨fuel, rfl⟩ := Nat.exists_eq_add_of_le' (Nat.one_le_of_lt hfuel)
    rw [List.length_cons] at hfuel
    have hrest : ∃ behind, serveAll fuel handles [.entry since]
        (entryTokens (mark.behindEntry word) words) = _ := ih (by omega)
    obtain ⟨behind, hserve⟩ := hrest
    refine ⟨behind, ?_⟩
    rw [entryTokens, serveAll, serve_entry]
    simp only [hserve, entryEvents, List.singleton_append]

theorem length_entryTokens : (entryTokens mark words).length = 2 * words.length + 2 := by
  induction words generalizing mark with
  | nil => rfl
  | cons word words ih =>
    rw [entryTokens, List.length_cons, List.length_cons, ih, List.length_cons]
    omega

/-- **The tokens of a list are served as its events.** -/
theorem serveAll_listTokens :
    ∃ behind, serveAll (serveBound (listTokens words)) handles [.node true false]
      (listTokens words) = (listEvents words, .ok [⟨.streamEnd, behind⟩]) := by
  have hbound : serveBound (listTokens words) = 10 * words.length + 22 + 1 := by
    rw [serveBound, listTokens, List.length_cons, length_entryTokens]
    omega
  have hentries : ∃ behind, serveAll (10 * words.length + 22) handles [.entry .start]
      (entryTokens .start words) = _ := serveAll_entryTokens (by omega)
  obtain ⟨behind, hserve⟩ := hentries
  refine ⟨behind, ?_⟩
  rw [hbound, serveAll, serve_listTokens]
  simp only [hserve, listEvents, List.singleton_append]

/-! ## The document -/

/-- The events of a list name nothing and refer to nothing. -/
theorem resolveAliases_entryEvents :
    resolveAliases names (entryEvents mark words) =
      ((entryEvents mark words).map .ofEvent, names.nodes, none) := by
  induction words generalizing mark with
  | nil => rfl
  | cons word words ih =>
    simp only [entryEvents, resolveAliases, Event.anchor?, ih, List.map_cons]

theorem resolveAliases_listEvents :
    resolveAliases names (listEvents words) =
      (.sequenceStart .start :: (entryEvents .start words).map .ofEvent, names.nodes, none) := by
  simp only [listEvents, resolveAliases, Event.anchor?, resolveAliases_entryEvents,
    NodeEvent.ofEvent]

/-- A text of characters that may stand in it has none that may not. -/
theorem firstDisallowed?_eq_none {text : List Char} {offset : Nat}
    (h : ∀ c ∈ text, isAllowed c = true) : firstDisallowed? offset text = none := by
  induction text generalizing offset with
  | nil => rfl
  | cons c text ih =>
    rw [firstDisallowed?, if_pos (h c (by simp))]
    exact ih fun d hd => h d (by simp [hd])

theorem isAllowed_of_mem_listText (hallowed : ∀ word ∈ words, ∀ c ∈ word, isAllowed c = true) :
    ∀ c ∈ listText words, isAllowed c = true := by
  intro c hc
  obtain ⟨word, hword, hc⟩ := List.mem_flatMap.1 hc
  simp only [entryLine, List.mem_cons, List.mem_append, List.not_mem_nil, or_false] at hc
  rcases hc with rfl | rfl | hc | rfl
  · rfl
  · rfl
  · exact hallowed word hword c hc
  · rfl

/-- **The document of a list** is the sequence of its entries, and nothing follows it. -/
theorem ofText_listText (hwords : ∀ other ∈ word :: words, IsPlainWord other)
    (hallowed : ∀ other ∈ word :: words, ∀ c ∈ other, isAllowed c = true) :
    Document.ofText (listText (word :: words)) =
      ⟨.sequenceStart .start :: (entryEvents .start (word :: words)).map .ofEvent, #[], none,
        false⟩ := by
  have hfirst : firstDisallowed? 0 (listText (word :: words)) = none :=
    firstDisallowed?_eq_none (isAllowed_of_mem_listText hallowed)
  have hopen : openDocument (listTokens (word :: words)) =
      .ok (.document standardHandles (.node true false) (listTokens (word :: words))) := rfl
  have hserve : ∃ behind, serveAll (serveBound (listTokens (word :: words))) standardHandles
      [.node true false] (listTokens (word :: words)) = _ := serveAll_listTokens
  obtain ⟨behind, hserve⟩ := hserve
  simp only [Document.ofText, hfirst, scan_listText hwords, hopen, readEvents, hserve,
    resolveAliases_listEvents]
  rfl

/-- **The texts of the entries are the words.** -/
theorem entries_entryEvents {doc : Document} {index : Nat} :
    doc.entries index ((entryEvents mark words).map .ofEvent) = .ok words := by
  induction words generalizing mark index with
  | nil => rfl
  | cons word words ih =>
    simp only [entryEvents, List.map_cons, NodeEvent.ofEvent]
    rw [Document.entries, ih]
    · rfl
    · exact nofun

/-- **A list of words is read back as the words.** -/
theorem readTextList_listText (hwords : ∀ other ∈ word :: words, IsPlainWord other)
    (hallowed : ∀ other ∈ word :: words, ∀ c ∈ other, isAllowed c = true) :
    readTextList (listText (word :: words)) = .ok (word :: words) := by
  rw [readTextList, ofText_listText hwords hallowed, Document.texts]
  simp only [entries_entryEvents, Document.endFault, Bool.false_eq_true, if_false, bind,
    Except.bind, pure, Except.pure]

end SuiteAudit.Yaml
