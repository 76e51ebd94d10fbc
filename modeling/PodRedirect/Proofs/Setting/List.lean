import PodRedirect.Proofs.Decimal
import PodRedirect.Proofs.Except
import PodRedirect.Proofs.Text
import PodRedirect.Setting.Coerce

/-!
# Lists and texts with commas

The entries of a list are the same whether they stand in one text with commas between them or each
for itself. Two texts that are joined by a comma have the entries of the first, and then those of
the second. What is left after white space and empty entries are dropped stays as it is when it is
taken again.

## Main definitions

* `Setting.Tidy`: a text that is not empty, without white space around it
* `Value.NoComma`: the text of a value holds no comma

## Main results

* `Setting.pieces_append`: the pieces of two texts that a comma joins
* `Setting.pieces_intercalate`: the pieces of texts that commas join
* `Setting.entries_of_entries`: the entries of a list are its own entries
-/

namespace PodRedirect

namespace Setting

/-! ## Without white space and empty parts -/

/-- The text is not empty, and there is no white space around it. -/
def Tidy (s : String) : Prop := s ≠ "" ∧ Text.strip s = s

theorem tidied_append (ps qs : List String) : tidied (ps ++ qs) = tidied ps ++ tidied qs := by
  rw [tidied, List.map_append, List.filter_append]
  rfl

theorem tidy_of_mem_tidied {ps : List String} {s : String} (h : s ∈ tidied ps) : Tidy s := by
  obtain ⟨hmem, hne⟩ := List.mem_filter.mp h
  obtain ⟨p, -, rfl⟩ := List.mem_map.mp hmem
  exact ⟨by simpa using hne, Text.strip_strip p⟩

theorem tidied_eq_self {ss : List String} (h : ∀ s ∈ ss, Tidy s) : tidied ss = ss := by
  have hstrip : ss.map Text.strip = ss :=
    (List.map_congr_left fun s hs => (h s hs).2).trans (List.map_id ss)
  rw [tidied, hstrip]
  exact List.filter_eq_self.mpr fun s hs => by simpa using (h s hs).1

/-! ## Pieces of a text -/

/-- **A comma between two texts puts their pieces together.** -/
theorem pieces_append (s t : String) : pieces (s ++ "," ++ t) = pieces s ++ pieces t := by
  rw [pieces, show "," = String.singleton ',' from rfl, Text.fields_append, tidied_append]
  rfl

/-- **Commas between texts without any** lead back to these, but for white space and empty texts. -/
theorem pieces_intercalate {ss : List String} (h : ∀ s ∈ ss, ',' ∉ s.toList) :
    pieces (",".intercalate ss) = tidied ss := by
  cases ss with
  | nil =>
    -- nothing is joined to the empty text, and the one piece of that is dropped
    decide
  | cons s ss =>
    have hfields : Text.fields ',' (",".intercalate (s :: ss)) = s :: ss :=
      Text.fields_intercalate h (List.cons_ne_nil s ss)
    rw [pieces, hfields]

/-- The pieces of texts, one text after the other, are those of what stands between their commas. -/
theorem flatMap_pieces (ss : List String) :
    ss.flatMap pieces = tidied (ss.flatMap (Text.fields ',')) := by
  induction ss with
  | nil => rfl
  | cons s ss ih => rw [List.flatMap_cons, List.flatMap_cons, tidied_append, ih, pieces]

/-- Texts without commas are what stands between their commas. -/
theorem flatMap_fields {ss : List String} (h : ∀ s ∈ ss, ',' ∉ s.toList) :
    ss.flatMap (Text.fields ',') = ss := by
  induction ss with
  | nil => rfl
  | cons s ss ih =>
    obtain ⟨hs, hss⟩ := List.forall_mem_cons.mp h
    rw [List.flatMap_cons, Text.fields_of_not_mem hs, ih hss]
    rfl

/-! ## Entries of a value -/

theorem entries_text (s : String) : entries (.text s) = .ok (pieces s) := rfl

/-- The entries of a list are the texts of its members, tidied. -/
theorem entries_of_content {v : Value} {xs : List Value} (h : v.content = .list xs) :
    entries v = tidied <$> xs.mapM Value.display := by
  rw [entries, h]

theorem mapM_display_text (ss : List String) : (ss.map Value.text).mapM Value.display = .ok ss := by
  rw [List.mapM_map]
  induction ss with
  | nil => rfl
  | cons s ss ih =>
    rw [List.mapM_cons, ih]
    rfl

theorem entries_list_text (ss : List String) :
    entries (.list (ss.map .text)) = .ok (tidied ss) := by
  rw [entries_of_content rfl, mapM_display_text]
  rfl

/-- Whatever a value is, its entries were tidied. -/
theorem exists_tidied_of_entries {v : Value} {ss : List String} (h : entries v = .ok ss) :
    ∃ ps, ss = tidied ps := by
  unfold entries at h
  split at h
  · cases h
    exact ⟨[], rfl⟩
  · obtain ⟨ps, -, rfl⟩ := of_map_ok h
    exact ⟨ps, rfl⟩
  · obtain ⟨ps, -, rfl⟩ := of_map_ok h
    exact ⟨ps, rfl⟩
  · obtain ⟨text, -, rfl⟩ := of_map_ok h
    exact ⟨Text.fields ',' text, rfl⟩

theorem tidy_of_mem_entries {v : Value} {ss : List String} (h : entries v = .ok ss) :
    ∀ s ∈ ss, Tidy s := by
  obtain ⟨ps, rfl⟩ := exists_tidied_of_entries h
  exact fun s hs => tidy_of_mem_tidied hs

/-- **The entries of a list that holds the entries of a value are these.** -/
theorem entries_of_entries {v : Value} {ss : List String} (h : entries v = .ok ss) :
    entries (.list (ss.map .text)) = .ok ss := by
  rw [entries_list_text, tidied_eq_self (tidy_of_mem_entries h)]

/-- The value that a setting for a list is given holds the entries as texts. -/
theorem coerce_of_entries {k : Setting} {v : Value} {ss : List String} (kind : k.kind = .list)
    (h : entries v = .ok ss) : k.coerce v = .ok (.list (ss.map .text)) := by
  unfold coerce
  rw [kind]
  dsimp only
  rw [h]
  rfl

/-- A list is empty unless something else is given. -/
theorem default_of_list {k : Setting} (kind : k.kind = .list) : k.default = .list [] := by
  cases k <;> first | rfl | cases kind

end Setting

/-- The text of the value holds no comma, if it has one. -/
def Value.NoComma (v : Value) : Prop := ∀ text, v.display = .ok text → ',' ∉ text.toList

namespace Setting

/-- Members of a list whose texts hold no comma may as well stand in one text, with commas between
them. If one of them has no text, then neither form has entries. -/
theorem entries_list_eq {xs : List Value} (h : ∀ x ∈ xs, x.NoComma) : entries (.list xs) =
    xs.mapM Value.display >>= fun ts => entries (.text (",".intercalate ts)) := by
  rw [entries_of_content rfl]
  cases hxs : xs.mapM Value.display with
  | error f => rfl
  | ok ts =>
    have hts : ∀ t ∈ ts, ',' ∉ t.toList := by
      intro t ht
      obtain ⟨x, hx, hdisplay⟩ := exists_of_mem_mapM hxs ht
      exact h x hx t hdisplay
    show Except.ok (tidied ts) = entries (.text (",".intercalate ts))
    rw [entries_text, pieces_intercalate hts]

end Setting

end PodRedirect
