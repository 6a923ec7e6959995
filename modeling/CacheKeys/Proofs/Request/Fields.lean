import Mathlib
import CacheKeys.Proofs.Document.Json
import CacheKeys.Proofs.Request.Settings
import CacheKeys.Proofs.Text.Numerals

/-! # Texts of fields

A field can be named by a text unless its name is empty or its index too great
(`Field.IsNameable`); then its own text names it, with the name of a header in lowercase
(`ofText?_text`).  Every field that a text names is of this kind (`isNameable_of_ofText?`), so it is
found again in its own text, and in the JSON text of that. -/

namespace CacheKeys

theorem Text.readIndex?_toString (n : ℕ) :
    readIndex? (toString n) = if n < indexBound then some n else none := by
  have hnumeral := Template.isNumeral_toString n
  have hdigits := (isNumeral_toList_iff.1 hnumeral).2
  unfold readIndex?
  split
  · next cs hcs =>
    have hplus : '+'.isDigit = true := hdigits '+' (hcs ▸ List.mem_cons_self)
    cases hplus
  · rw [natBelow?, hnumeral, Template.numeralValue_toString]
    simp

theorem Text.lt_of_readIndex? {s : String} {n : ℕ} (h : readIndex? s = some n) :
    n < indexBound := by
  have hbelow : ∀ cs, natBelow? indexBound cs = some n → n < indexBound := by
    intro cs hn
    unfold natBelow? at hn
    split at hn
    · next hlt =>
      cases hn
      exact hlt.2
    · cases hn
  unfold readIndex? at h
  split at h
  · exact hbelow _ h
  · exact hbelow _ h

namespace Field

/-- The fields that texts can name. -/
def IsNameable : Field → Prop
  | segment index => index < Text.indexBound
  | queryParam name => name ≠ ""
  | header name => name ≠ ""
  | cookie name => name ≠ ""
  | _ => True

instance : (f : Field) → Decidable f.IsNameable
  | segment index => inferInstanceAs (Decidable (index < Text.indexBound))
  | queryParam name | header name | cookie name => inferInstanceAs (Decidable (name ≠ ""))
  | method | path | query | user | country | region | city | device | literal _ => .isTrue trivial

/-- The field with the name of its header in lowercase. -/
def normal : Field → Field
  | header name => header name.toLower
  | f => f

/-! ### The text of a field -/

theorem parse_eq_ok_iff {s : String} {f : Field} : parse s = .ok f ↔ ofText? s = some f := by
  unfold parse
  split
  · next g hg => simp [hg]
  · next hnone => simp [hnone]

theorem ofText?_append (kind : String) (h : ':' ∉ kind.toList) (argument : String) :
    ofText? (kind ++ ":" ++ argument) = withArgument? kind argument := by
  have hsplit : Text.splitFirst? ':' (kind ++ ":" ++ argument) = some (kind, argument) :=
    Text.splitFirst?_append h argument
  rw [ofText?, hsplit]

theorem ofText?_text_of_mem_simple : ∀ f ∈ simple, ofText? f.text = some f := by
  decide +kernel

/-- The text of a field that can be named names it, with the name of a header in lowercase, and
the text of any other field names nothing. -/
theorem ofText?_text (f : Field) :
    ofText? f.text = if f.IsNameable then some f.normal else none := by
  cases f with
  | segment index =>
      have hread := ofText?_append "segment" (by decide) (toString index)
      rw [withArgument?, if_pos rfl, Text.readIndex?_toString] at hread
      refine hread.trans ?_
      by_cases hindex : index < Text.indexBound
      · simp [IsNameable, normal, hindex]
      · simp [IsNameable, hindex]
  | queryParam name =>
      refine (ofText?_append "query" (by decide) name).trans ?_
      by_cases hname : name = ""
      · simp [withArgument?, IsNameable, hname]
      · simp [withArgument?, IsNameable, normal, hname]
  | header name =>
      refine (ofText?_header name).trans ?_
      by_cases hname : name = ""
      · simp [IsNameable, hname]
      · simp [IsNameable, normal, hname]
  | cookie name =>
      refine (ofText?_append "cookie" (by decide) name).trans ?_
      by_cases hname : name = ""
      · simp [withArgument?, IsNameable, hname]
      · simp [withArgument?, IsNameable, normal, hname]
  | literal text =>
      refine (ofText?_append "literal" (by decide) text).trans ?_
      simp [withArgument?, IsNameable, normal]
  | method | path | query | user | country | region | city | device =>
      exact ofText?_text_of_mem_simple _ (by decide)

/-! ### Fields that texts name -/

theorem isNameable_of_withArgument? {kind argument : String} {f : Field}
    (h : withArgument? kind argument = some f) : f.IsNameable ∧ f.normal = f := by
  unfold withArgument? at h
  split at h
  · obtain ⟨index, hindex, rfl⟩ := Option.map_eq_some_iff.1 h
    exact ⟨Text.lt_of_readIndex? hindex, rfl⟩
  · split at h
    · cases h
      exact ⟨trivial, rfl⟩
    · split at h
      · cases h
      · next hne =>
        have hname : argument ≠ "" := by simpa using hne
        split at h
        · cases h
          exact ⟨hname, rfl⟩
        · split at h
          · cases h
            exact ⟨by simpa [IsNameable, toLower_eq_empty_iff] using hname,
              congrArg header (toLower_toLower argument)⟩
          · split at h
            · cases h
              exact ⟨hname, rfl⟩
            · cases h

theorem isNameable_of_ofText? {s : String} {f : Field} (h : ofText? s = some f) :
    f.IsNameable ∧ f.normal = f := by
  unfold ofText? at h
  split at h
  · have hsimple : ∀ g ∈ simple, g.IsNameable ∧ g.normal = g := by decide
    exact hsimple f (List.mem_of_find?_eq_some h)
  · exact isNameable_of_withArgument? h

/-! ### Values -/

theorem resolve_normal (f : Field) (r : Request) : f.normal.resolve r = f.resolve r := by
  cases f with
  | header name =>
      have hlook := Request.header?_eq_of_toLower_eq (toLower_toLower name) r
      exact congrArg (fun v : Option String => v.getD "") hlook
  | _ => rfl

/-! ### Texts as documents -/

def ofDocument? (d : Document) : Option Field := d.text?.bind ofText?

def toDocument (f : Field) : Document := .text f.text

theorem ofDocument?_read?_write {layout : Json.Layout} (hl : layout.IsBlank) (f : Field) :
    (Json.read? (Json.write layout 0 f.toDocument)).bind ofDocument? = ofText? f.text := by
  rw [toDocument, Json.read?_write hl 0 (.text f.text)]
  rfl

/-- The text of a field names a field exactly if the name in it is not empty and the index not too
great; this is the field itself but for the name of a header, which is in lowercase, and it has the
same value in every request.  A field that a text names is found again in its own text, and in the
JSON text of this, on one line or indented. -/
theorem parse_text_iff_isNameable :
    (∀ f g : Field, parse f.text = .ok g ↔ f.IsNameable ∧ g = f.normal) ∧
    (∀ (f : Field) (r : Request), f.normal.resolve r = f.resolve r) ∧
    ∀ (s : String) (f : Field), parse s = .ok f →
      parse f.text = .ok f ∧
      (Json.read? (Json.compact f.toDocument)).bind ofDocument? = some f ∧
      (Json.read? (Json.pretty f.toDocument)).bind ofDocument? = some f := by
  refine ⟨?_, resolve_normal, ?_⟩
  · intro f g
    rw [parse_eq_ok_iff, ofText?_text]
    by_cases hf : f.IsNameable
    · simp [hf, eq_comm]
    · simp [hf]
  · intro s f hs
    obtain ⟨hf, hnormal⟩ := isNameable_of_ofText? (parse_eq_ok_iff.1 hs)
    have htext : ofText? f.text = some f := by
      rw [ofText?_text, if_pos hf, hnormal]
    refine ⟨parse_eq_ok_iff.2 htext, ?_, ?_⟩
    · exact (ofDocument?_read?_write Json.Layout.isBlank_compact f).trans htext
    · exact (ofDocument?_read?_write Json.Layout.isBlank_indented f).trans htext

/-- An index with a sign and zeros in front, and a header with a colon in its name. -/
theorem parse_text_iff_isNameable_other_spellings :
    parse "segment:+007" = .ok (.segment 7) ∧
    parse (text (.segment 7)) = .ok (.segment 7) ∧
    (Json.read? (Json.compact (toDocument (.segment 7)))).bind ofDocument? = some (.segment 7) ∧
    IsNameable (.header "X-É:A") ∧
    parse (text (.header "X-É:A")) = .ok (.header "x-É:a") := by
  have hsegment : parse "segment:+007" = .ok (.segment 7) := by decide +kernel
  have hheader : normal (.header "X-É:A") = .header "x-É:a" := by decide +kernel
  have hnameable : IsNameable (.header "X-É:A") := by decide
  obtain ⟨htext, -, hagain⟩ := parse_text_iff_isNameable
  obtain ⟨hparse, hjson, -⟩ := hagain _ _ hsegment
  exact ⟨hsegment, hparse, hjson, hnameable, (htext _ _).2 ⟨hnameable, hheader.symm⟩⟩

end Field

end CacheKeys
