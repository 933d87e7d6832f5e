import CommandAdvisor.Proofs.History.Revisions
import CommandAdvisor.Proofs.Text.Surroundings

/-!
# What a search finds

A query and the texts of an entry are put in lower case before one is looked for in the other.
What stands in a text stands there in lower case too, unless the query holds a capital sigma
whose small letter depends on what is around it. A query whose lower case is the same in all
surroundings is found wherever it stands; for every other one there is an entry that holds it
and is not found.

## Main definitions
* `Entry.searched`: the texts of an entry that are searched.

## Main statements
* `mem_search_iff`: which entries are found.
* `isSettled_iff_mem_search`: which queries are found wherever they stand.
* `Store.search_finds`: what a search of a store finds.
-/
namespace CommandAdvisor.History

open Text (IsSettled isSettled_iff lower)

/-- The texts of an entry that are searched. -/
def Entry.searched (e : Entry) : List Text := e.command :: e.overall :: e.tags

section Search

variable {query : Text} {entries : List Entry} {e : Entry}

/-- An entry is found if one of its texts holds the query, both in lower case. -/
theorem mem_search_iff :
    e ∈ search query entries ↔ e ∈ entries ∧ ∃ text ∈ e.searched, lower query <:+: lower text := by
  simp only [search, holds, Text.mentions, List.mem_filter, Bool.or_eq_true, List.any_eq_true,
    Text.occursIn_iff, Entry.searched, List.exists_mem_cons_iff, or_assoc]

/-- What is found stands in the order of the entries. -/
theorem search_sublist (query : Text) (entries : List Entry) :
    (search query entries).Sublist entries := List.filter_sublist

/-- A query and its lower case find the same. -/
theorem search_lower (query : Text) (entries : List Entry) :
    search (lower query) entries = search query entries := by
  rw [search, search, Text.lower_lower]

/-- **A query is found wherever it stands** in the texts that are searched exactly if its lower
case is the same in all surroundings. -/
theorem isSettled_iff_mem_search (query : Text) : IsSettled query ↔
    ∀ entries : List Entry, ∀ e ∈ entries,
      (∃ text ∈ e.searched, query <:+: text) → e ∈ search query entries := by
  constructor
  · rintro hquery entries e he ⟨text, htext, hin⟩
    exact mem_search_iff.2 ⟨he, text, htext, hquery.lower_infix_lower hin⟩
  · intro hfinds
    rw [isSettled_iff]
    intro text hin
    let e : Entry := { (default : Entry) with command := text, overall := text, tags := [] }
    have he : e.searched = [text, text] := rfl
    have hfound := hfinds [e] e List.mem_cons_self ⟨text, by simp [he], hin⟩
    obtain ⟨-, found, hmem, hlower⟩ := mem_search_iff.1 hfound
    rw [he] at hmem
    obtain rfl : found = text := by simpa using hmem
    exact hlower

end Search

namespace Store

variable {s : Store} {w w' : Workspace} {entries : List Entry}

theorem run_search (h : s.entries.run w = .ok entries w') (query : Text) :
    (s.search query).run w = .ok (History.search query entries) w' := by
  rw [Store.search, run_bind_of_ok h]
  rfl

/-- **What a search of a store finds.** Of the entries that are shown it gives those that hold
the query, both in lower case, in their order; the query may be in lower case before. All entries
with the query in a text that is searched are among them if the lower case of the query is the
same in all surroundings, as it is without a capital sigma, and for no other query. -/
theorem search_finds (query : Text) :
    (∀ (s : Store) (w w' : Workspace) (entries : List Entry),
      s.entries.run w = .ok entries w' →
      ∃ found, (s.search query).run w = .ok found w' ∧
        (s.search (lower query)).run w = .ok found w' ∧
        found.Sublist entries ∧
        (∀ e, e ∈ found ↔ e ∈ entries ∧
          ∃ text ∈ e.command :: e.overall :: e.tags, lower query <:+: lower text) ∧
        (IsSettled query → ∀ e ∈ entries,
          (query <:+: e.command ∨ query <:+: e.overall ∨ ∃ tag ∈ e.tags, query <:+: tag) →
          e ∈ found)) ∧
    (IsSettled query ↔ ∀ entries : List Entry, ∀ e ∈ entries,
      (query <:+: e.command ∨ query <:+: e.overall ∨ ∃ tag ∈ e.tags, query <:+: tag) →
      e ∈ History.search query entries) ∧
    (Letter.char 'Σ' ∉ query → IsSettled query) := by
  have hsearched (e : Entry) : (∃ text ∈ e.searched, query <:+: text) ↔
      query <:+: e.command ∨ query <:+: e.overall ∨ ∃ tag ∈ e.tags, query <:+: tag := by
    rw [Entry.searched, List.exists_mem_cons_iff, List.exists_mem_cons_iff]
  have hexact := isSettled_iff_mem_search query
  simp only [hsearched] at hexact
  refine ⟨?_, hexact, Text.isSettled_of_notMem⟩
  intro s w w' entries h
  refine ⟨History.search query entries, run_search h query, ?_, search_sublist query entries,
    fun _ => mem_search_iff, fun hquery => hexact.1 hquery entries⟩
  rw [run_search h, search_lower]

/-- A tag in capitals, found by a part of it in capitals. -/
theorem search_finds_manifold : ∃ w found,
    (inRoot.search "ẞ").run w = .ok found w ∧ manifold ∈ found := by
  have hs : ∀ e ∈ [manifold], e.IsSound := by decide +kernel
  have hholds := holds_stocked hs (fun e _ => e.keepsTime) []
  obtain ⟨hfinds, -, hsettled⟩ := search_finds "ẞ"
  obtain ⟨found, hsearch, -, -, -, hcomplete⟩ := hfinds inRoot _ _ [manifold] hholds.run_entries
  have htag : ∃ tag ∈ manifold.tags, Text.ofString "ẞ" <:+: tag :=
    ⟨"ẞ", List.mem_cons_self, List.infix_rfl⟩
  exact ⟨_, found, hsearch, hcomplete (hsettled (by decide)) manifold List.mem_cons_self
    (.inr (.inr htag))⟩

end Store

end CommandAdvisor.History
