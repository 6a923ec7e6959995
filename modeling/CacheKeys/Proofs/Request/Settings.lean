import Mathlib
import CacheKeys.Proofs.Request.CanonicalQuery
import CacheKeys.Proofs.Text.Pieces
import CacheKeys.Rule.Basic

/-! # Requests set by hand

A request is set by giving values to query parameters, headers and cookies one after another.  A
`Slot` is what a setting gives a value to; the names of headers count in lowercase.  One setting
changes the value in its own slot only (`at?_apply`), so after any number of settings each slot has
the value that it was given last (`at?_setAll`).  Tables with the same look-ups are the same
(`NameTable.ext_get?`), hence settings that agree in the last values give requests that nothing
tells apart (`setAll_depends_on_last_values`). -/

namespace CacheKeys

/-- Tables are the same if all look-ups are. -/
theorem NameTable.ext_get? {α : Type} {t t' : NameTable α}
    (h : ∀ name, t.get? name = t'.get? name) : t = t' := by
  have irrefl : Std.Irrefl fun a b : String × α => a.1 < b.1 := ⟨fun a => String.lt_irrefl a.1⟩
  have antisymm : Std.Antisymm fun a b : String × α => a.1 < b.1 :=
    ⟨fun a _ hab hba => absurd (String.lt_trans hab hba) (String.lt_irrefl a.1)⟩
  refine ext_entries (t.sorted.eq_of_mem_iff t'.sorted ?_)
  rintro ⟨name, v⟩
  rw [t.mem_entries_iff, t'.mem_entries_iff, h]

/-! ### Settings -/

/-- What can be given a value in a request; the name of a header is in lowercase. -/
inductive Slot where
  | query (name : String)
  | header (name : String)
  | cookie (name : String)
  deriving DecidableEq

/-- One setting of a request. -/
inductive Setting where
  | query (name value : String)
  | header (name value : String)
  | cookie (name value : String)

namespace Setting

/-- What the setting gives a value to. -/
def slot : Setting → Slot
  | query name _ => .query name
  | header name _ => .header name.toLower
  | cookie name _ => .cookie name

def value : Setting → String
  | query _ value => value
  | header _ value => value
  | cookie _ value => value

def apply (r : Request) : Setting → Request
  | query name value => r.withQuery name value
  | header name value => r.withHeader name value
  | cookie name value => r.withCookie name value

/-- The value that is given to a slot last. -/
def lastValue? (settings : List Setting) (slot : Slot) : Option String :=
  (settings.reverse.find? fun s => s.slot = slot).map value

theorem lastValue?_cons (s : Setting) (settings : List Setting) (slot : Slot) :
    lastValue? (s :: settings) slot =
      (lastValue? settings slot).or (if s.slot = slot then some s.value else none) := by
  unfold lastValue?
  rw [List.reverse_cons, List.find?_append, Option.map_or]
  congr 1
  by_cases h : s.slot = slot
  · simp [h]
  · simp [h]

end Setting

namespace Request

/-- The request after settings, one after another. -/
def setAll (r : Request) (settings : List Setting) : Request := settings.foldl Setting.apply r

theorem setAll_cons (r : Request) (s : Setting) (settings : List Setting) :
    r.setAll (s :: settings) = (s.apply r).setAll settings := rfl

def at? (r : Request) : Slot → Option String
  | .query name => r.query.get? name
  | .header name => r.headers.get? name
  | .cookie name => r.cookies.get? name

/-- A setting changes the value in its own slot only. -/
theorem at?_apply (r : Request) (s : Setting) (slot : Slot) :
    (s.apply r).at? slot = if s.slot = slot then some s.value else r.at? slot := by
  have hget : ∀ (t : NameTable String) (name other value : String) {a b : Slot},
      (a = b ↔ other = name) →
      (t.insert name value).get? other = if a = b then some value else t.get? other := by
    intro t name other value a b hab
    rw [t.get?_insert]
    exact if_congr hab.symm rfl rfl
  cases s with
  | query name value =>
      cases slot with
      | query other => exact hget r.query name other value (by simp [Setting.slot, eq_comm])
      | header other => rfl
      | cookie other => rfl
  | header name value =>
      cases slot with
      | query other => rfl
      | header other =>
          exact hget r.headers name.toLower other value (by simp [Setting.slot, eq_comm])
      | cookie other => rfl
  | cookie name value =>
      cases slot with
      | query other => rfl
      | header other => rfl
      | cookie other => exact hget r.cookies name other value (by simp [Setting.slot, eq_comm])

/-- Each slot has the value that it was given last. -/
theorem at?_setAll (r : Request) (settings : List Setting) (slot : Slot) :
    (r.setAll settings).at? slot = (Setting.lastValue? settings slot).or (r.at? slot) := by
  induction settings generalizing r with
  | nil => rfl
  | cons s settings ih =>
      rw [setAll_cons, ih, at?_apply, Setting.lastValue?_cons, Option.or_assoc]
      congr 1
      split
      · rfl
      · rfl

/-- Settings change nothing but the three tables. -/
theorem setAll_eq (r : Request) (settings : List Setting) :
    r.setAll settings =
      { r with
        query := (r.setAll settings).query
        headers := (r.setAll settings).headers
        cookies := (r.setAll settings).cookies } := by
  induction settings generalizing r with
  | nil => rfl
  | cons s settings ih =>
      rw [setAll_cons, ih]
      cases s with
      | query name value => rfl
      | header name value => rfl
      | cookie name value => rfl

theorem setAll_eq_setAll {r : Request} {ss ts : List Setting}
    (h : ∀ slot, Setting.lastValue? ss slot = Setting.lastValue? ts slot) :
    r.setAll ss = r.setAll ts := by
  have hat : ∀ slot, (r.setAll ss).at? slot = (r.setAll ts).at? slot := by
    intro slot
    rw [at?_setAll, at?_setAll, h]
  have hquery : (r.setAll ss).query = (r.setAll ts).query :=
    NameTable.ext_get? fun name => hat (.query name)
  have hheaders : (r.setAll ss).headers = (r.setAll ts).headers :=
    NameTable.ext_get? fun name => hat (.header name)
  have hcookies : (r.setAll ss).cookies = (r.setAll ts).cookies :=
    NameTable.ext_get? fun name => hat (.cookie name)
  rw [setAll_eq r ss, setAll_eq r ts, hquery, hheaders, hcookies]

/-- No field, no header, no query and no rule tells two requests apart. -/
structure Alike (r s : Request) : Prop where
  resolve : ∀ f : Field, f.resolve r = f.resolve s
  canonicalQuery : r.canonicalQuery = s.canonicalQuery
  header? : ∀ name, r.header? name = s.header? name
  key : ∀ rule : Rule, (rule.derive r).key = (rule.derive s).key
  components : ∀ rule : Rule, (rule.derive r).components = (rule.derive s).components

theorem Alike.of_eq {r s : Request} (h : r = s) : r.Alike s := by
  subst h
  exact ⟨fun _ => rfl, rfl, fun _ => rfl, fun _ => rfl, fun _ => rfl⟩

theorem header?_setAll (r : Request) (settings : List Setting) (name : String) :
    (r.setAll settings).header? name =
      (Setting.lastValue? settings (.header name.toLower)).or (r.header? name) :=
  r.at?_setAll settings (.header name.toLower)

/-! ### Two settings -/

/-- Settings of different slots can be exchanged. -/
theorem setAll_swap (r : Request) {s t : Setting} (h : s.slot ≠ t.slot) :
    r.setAll [s, t] = r.setAll [t, s] := by
  apply setAll_eq_setAll
  intro slot
  simp only [Setting.lastValue?_cons]
  by_cases hs : s.slot = slot
  · have ht : t.slot ≠ slot := fun ht => h (hs.trans ht.symm)
    simp [hs, ht]
  · simp [hs]

end Request

/-! ### Names of headers -/

theorem toLower_toLower (s : String) : s.toLower.toLower = s.toLower := by
  rw [← String.toList_inj]
  simp [String.toLower]

theorem toLower_eq_empty_iff {s : String} : s.toLower = "" ↔ s = "" := by
  rw [← String.toList_inj, ← String.toList_inj]
  simp [String.toLower]

section headerNames
variable {name name' : String} (h : name.toLower = name'.toLower)
include h

theorem Request.withHeader_eq_of_toLower_eq (r : Request) (value : String) :
    r.withHeader name value = r.withHeader name' value := by
  rw [withHeader, withHeader, h]

theorem Request.header?_eq_of_toLower_eq (r : Request) : r.header? name = r.header? name' := by
  rw [header?, header?, h]

theorem isEmpty_eq_of_toLower_eq : name.isEmpty = name'.isEmpty := by
  rw [Bool.eq_iff_iff, String.isEmpty_iff, String.isEmpty_iff, ← toLower_eq_empty_iff, h]
  exact toLower_eq_empty_iff

omit h in
theorem Field.ofText?_header (name : String) :
    ofText? ("header:" ++ name) = if name.isEmpty then none else some (.header name.toLower) := by
  have hkind : "header:" = "header" ++ String.singleton ':' := by decide
  have hcolon : ':' ∉ "header".toList := by decide
  rw [ofText?, hkind, Text.splitFirst?_append hcolon name]
  simp [withArgument?]

/-- The text of a header field names the same field, or none, however the name is spelt. -/
theorem Field.ofText?_header_eq_of_toLower_eq :
    ofText? ("header:" ++ name) = ofText? ("header:" ++ name') := by
  rw [ofText?_header, ofText?_header, isEmpty_eq_of_toLower_eq h, h]

end headerNames

/-! ### Last values -/

/-- Settings that give every slot the same last value, or none, make requests alike, whatever the
request was before: each slot has the value that was given last, or else the value of before.  So
settings of different slots can be exchanged, and a header is the same however its name is spelt:
where it is set, where it is looked up, in a field and in the text of a field. -/
theorem Request.setAll_depends_on_last_values (r : Request) :
    (∀ ss ts : List Setting,
      (∀ slot, Setting.lastValue? ss slot = Setting.lastValue? ts slot) →
        (r.setAll ss).Alike (r.setAll ts)) ∧
    (∀ (ss : List Setting) (name : String),
      (r.setAll ss).query.get? name =
        (Setting.lastValue? ss (.query name)).or (r.query.get? name) ∧
      (r.setAll ss).header? name =
        (Setting.lastValue? ss (.header name.toLower)).or (r.header? name) ∧
      (r.setAll ss).cookies.get? name =
        (Setting.lastValue? ss (.cookie name)).or (r.cookies.get? name)) ∧
    (∀ s t : Setting, s.slot ≠ t.slot → (r.setAll [s, t]).Alike (r.setAll [t, s])) ∧
    ∀ name name' value : String, name.toLower = name'.toLower →
      (r.withHeader name value).Alike (r.withHeader name' value) ∧
      r.header? name = r.header? name' ∧
      (Field.header name).resolve r = (Field.header name').resolve r ∧
      Field.ofText? ("header:" ++ name) = Field.ofText? ("header:" ++ name') := by
  refine ⟨fun ss ts h => .of_eq (setAll_eq_setAll h), ?_, ?_, ?_⟩
  · intro ss name
    exact ⟨r.at?_setAll ss (.query name), r.header?_setAll ss name, r.at?_setAll ss (.cookie name)⟩
  · intro s t h
    exact .of_eq (r.setAll_swap h)
  · intro name name' value h
    have hlook := header?_eq_of_toLower_eq h r
    refine ⟨.of_eq (withHeader_eq_of_toLower_eq h r value), hlook, ?_,
      Field.ofText?_header_eq_of_toLower_eq h⟩
    exact congrArg (fun v : Option String => v.getD "") hlook

/-- A header that is set twice under two spellings, among parameters in another order. -/
theorem Request.setAll_depends_on_last_values_mixed_spellings :
    (∀ slot, Setting.lastValue? [.header "Accept" "x", .query "b" "2", .header "ACCEPT" "de",
        .query "a" "1"] slot =
      Setting.lastValue? [.query "a" "1", .header "accept" "de", .query "b" "2"] slot) ∧
    ((make "get" "/p").setAll [.header "Accept" "x", .query "b" "2", .header "ACCEPT" "de",
        .query "a" "1"]).Alike
      ((make "get" "/p").setAll [.query "a" "1", .header "accept" "de", .query "b" "2"]) ∧
    (Setting.query "a" "1").slot ≠ (Setting.cookie "a" "2").slot ∧
    ((make "get" "/p").setAll [.query "a" "1", .cookie "a" "2"]).Alike
      ((make "get" "/p").setAll [.cookie "a" "2", .query "a" "1"]) ∧
    "Accept".toLower = "ACCEPT".toLower ∧
    ((make "get" "/p").withHeader "Accept" "de").Alike
      ((make "get" "/p").withHeader "ACCEPT" "de") := by
  have hupper : "ACCEPT".toLower = "accept" := by decide +kernel
  have hmixed : "Accept".toLower = "accept" := by decide +kernel
  have hlower : "accept".toLower = "accept" := by decide +kernel
  have hlast : ∀ slot, Setting.lastValue? [.header "Accept" "x", .query "b" "2",
        .header "ACCEPT" "de", .query "a" "1"] slot =
      Setting.lastValue? [.query "a" "1", .header "accept" "de", .query "b" "2"] slot := by
    intro slot
    simp only [Setting.lastValue?_cons, Setting.slot, Setting.value, hupper, hmixed, hlower]
    cases slot with
    | query name =>
        by_cases ha : "a" = name
        · simp [← ha]
        · simp [ha]
    | header name =>
        by_cases hname : "accept" = name
        · simp [hname]
        · simp [hname]
    | cookie name => simp
  have hslot : (Setting.query "a" "1").slot ≠ (Setting.cookie "a" "2").slot := by decide
  obtain ⟨halike, -, hswap, hname⟩ := setAll_depends_on_last_values (make "get" "/p")
  exact ⟨hlast, halike _ _ hlast, hslot, hswap _ _ hslot, hmixed.trans hupper.symm,
    (hname _ _ "de" (hmixed.trans hupper.symm)).1⟩

end CacheKeys
