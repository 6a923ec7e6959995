import Mathlib
import CacheKeys.Key
import CacheKeys.Proofs.Document.Json

/-! # Records and their JSON texts

The JSON text of a record holds what its document holds (`Json.read?_write`), so a record survives
its JSON text if it can be read from its own document.  A cache key can unless it has no components:
then their field is left out where it is written, but asked for where it is read. -/

namespace CacheKeys

/-! ### Lists -/

/-- A list is read from the documents of its items. -/
theorem Document.list?_map {β : Type} {item : Document → Option β} {toDocument : β → Document}
    (h : ∀ v, item (toDocument v) = some v) (vs : List β) :
    list? item (.list (vs.map toDocument)) = some vs := by
  rw [list?]
  induction vs with
  | nil => rfl
  | cons v vs ih => simp [List.mapM_cons, h, ih]

theorem Document.list?_ofTexts (texts : List String) :
    list? text? (ofTexts texts) = some texts := by
  have htext : ∀ s, text? (.text s) = some s := fun _ => rfl
  exact list?_map htext texts

/-! ### Readable documents -/

namespace Json

attribute [simp] IsReadable.null IsReadable.bool IsReadable.integer IsReadable.text

@[simp]
theorem isReadable_list_iff {items : List Document} :
    IsReadable (.list items) ↔ ∀ d ∈ items, IsReadable d :=
  ⟨fun | .list h => h, .list⟩

@[simp high]
theorem isReadable_list_map {β : Type} {f : β → Document} {xs : List β} :
    IsReadable (.list (xs.map f)) ↔ ∀ x ∈ xs, IsReadable (f x) := by
  rw [isReadable_list_iff, List.forall_mem_map]

@[simp]
theorem isReadable_table_iff {fields : List (String × Document)} :
    IsReadable (.table fields) ↔ ∀ f ∈ fields, IsReadable f.2 :=
  ⟨fun | .table h => h, .table⟩

@[simp]
theorem isReadable_ofNat (n : ℕ) : IsReadable (.ofNat n) := .integer n

@[simp]
theorem isReadable_ofTexts (texts : List String) : IsReadable (.ofTexts texts) := by
  simp [Document.ofTexts]

@[simp]
theorem isReadable_ofText? (s : Option String) : IsReadable (.ofText? s) := by
  cases s <;> simp [Document.ofText?]

end Json

/-! ### Cache keys -/

namespace CacheKey

theorem isReadable_toDocument (k : CacheKey) : Json.IsReadable k.toDocument := by
  unfold toDocument
  split <;> simp

/-- The field of components has to be there, and is not if there are none. -/
theorem ofDocument?_toDocument (dialect : Document.Dialect) (k : CacheKey) :
    ofDocument? dialect k.toDocument = if k.components = [] then none else some k := by
  obtain ⟨key, rule, components⟩ := k
  cases components with
  | nil =>
      simp [toDocument, ofDocument?, Document.fields?, Document.required?, Document.text?,
        List.lookup_cons]
  | cons c cs =>
      simp [toDocument, ofDocument?, Document.fields?, Document.required?, Document.text?,
        List.lookup_cons, Document.list?_ofTexts]

theorem read?_write_toDocument {layout : Json.Layout} (hl : layout.IsBlank) (k : CacheKey) :
    (Json.read? (Json.write layout 0 k.toDocument)).bind (ofDocument? Json.dialect) =
      if k.components = [] then none else some k := by
  rw [Json.read?_write hl 0 k.isReadable_toDocument, Option.bind_some, ofDocument?_toDocument]

/-- A key is read from its JSON text, on one line or indented, exactly if it has components. -/
theorem ofDocument?_read?_json (k : CacheKey) :
    (Json.read? (Json.compact k.toDocument)).bind (ofDocument? Json.dialect) =
      (if k.components = [] then none else some k) ∧
    (Json.read? (Json.pretty k.toDocument)).bind (ofDocument? Json.dialect) =
      (if k.components = [] then none else some k) :=
  ⟨read?_write_toDocument Json.Layout.isBlank_compact k,
    read?_write_toDocument Json.Layout.isBlank_indented k⟩

/-- The text that is written for a key without components is no key. -/
theorem ofDocument?_read?_json_no_components :
    Json.compact (toDocument ⟨"k", "r", []⟩) = "\x7b\"key\":\"k\",\"rule\":\"r\"\x7d" ∧
    (Json.read? (Json.compact (toDocument ⟨"k", "r", []⟩))).bind (ofDocument? Json.dialect) =
      none := by
  decide

end CacheKey

end CacheKeys
