import Mathlib
import CacheKeys.Config
import CacheKeys.Proofs.Document.Records

/-! # Configuration and its JSON texts

A record that is read from its own document survives its JSON texts (`Record.isStable`).  All parts
of the configuration do, and so do the headers that explain a key: what may be left out where they
are read is always written (`configuration_survives_json`).  Limits are counts of 64 bits, as larger
numbers are not read. -/

namespace CacheKeys

open Template

/-! ### Records -/

/-- How records of a kind are written as documents and read from them, and which there are. -/
structure Record (β : Type) where
  toDocument : β → Document
  ofDocument? : Document.Dialect → Document → Option β
  InRange : β → Prop

namespace Record

variable {β : Type}

def ofJson? (r : Record β) (text : String) : Option β :=
  (Json.read? text).bind (r.ofDocument? Json.dialect)

/-- The record is read from the JSON texts that are written for it, on one line and indented. -/
def Survives (r : Record β) (v : β) : Prop :=
  r.ofJson? (Json.compact (r.toDocument v)) = some v ∧
    r.ofJson? (Json.pretty (r.toDocument v)) = some v

/-- Every record survives its JSON texts, and so does what is read from any JSON text. -/
structure IsStable (r : Record β) : Prop where
  survives : ∀ v, r.InRange v → r.Survives v
  survives_of_ofJson? : ∀ text v, r.ofJson? text = some v → r.InRange v ∧ r.Survives v

/-- Only documents have to be looked at: writing a document and reading it changes nothing. -/
theorem isStable {r : Record β} (hreadable : ∀ v, Json.IsReadable (r.toDocument v))
    (hread : ∀ v, r.InRange v → r.ofDocument? Json.dialect (r.toDocument v) = some v)
    (hrange : ∀ d v, r.ofDocument? Json.dialect d = some v → r.InRange v) : r.IsStable := by
  have hwrite : ∀ {layout : Json.Layout}, layout.IsBlank → ∀ v, r.InRange v →
      r.ofJson? (Json.write layout 0 (r.toDocument v)) = some v := by
    intro layout hl v hv
    rw [ofJson?, Json.read?_write hl 0 (hreadable v), Option.bind_some, hread v hv]
  have hsurvives : ∀ v, r.InRange v → r.Survives v := fun v hv =>
    ⟨hwrite Json.Layout.isBlank_compact v hv, hwrite Json.Layout.isBlank_indented v hv⟩
  refine ⟨hsurvives, fun text v h => ?_⟩
  obtain ⟨d, -, hd⟩ := Option.bind_eq_some_iff.1 h
  exact ⟨hrange d v hd, hsurvives v (hrange d v hd)⟩

end Record

namespace Document

theorem index?_ofNat {n : ℕ} (h : n < Text.indexBound) : index? (ofNat n) = some n := by
  simp [index?, ofNat, h]

theorem lt_of_index? {d : Document} {n : ℕ} (h : d.index? = some n) : n < Text.indexBound := by
  unfold index? at h
  split at h
  · split at h
    · next hn =>
        cases h
        exact hn.2
    · cases h
  · cases h

theorem nullable?_ofText? (s : Option String) :
    nullable? text? (ofText? s) = some s := by
  cases s <;> rfl

/-- A field that may be left out is the default or what its document is read as. -/
theorem optional?_eq_some {β : Type} {fields : List (String × Document)} {name : String}
    {default : β} {value : Document → Option β} {v : β}
    (h : optional? fields name default value = some v) :
    v = default ∨ ∃ d, value d = some v := by
  unfold optional? at h
  split at h
  · cases h
    exact .inl rfl
  · exact .inr ⟨_, h⟩

end Document

/-! ### Rules -/

namespace RuleConfig

def record : Record RuleConfig := ⟨toDocument, ofDocument?, fun _ => True⟩

@[simp]
theorem isReadable_toDocument (c : RuleConfig) : Json.IsReadable c.toDocument := by
  simp [toDocument]

theorem ofDocument?_toDocument (dialect : Document.Dialect) (c : RuleConfig) :
    ofDocument? dialect c.toDocument = some c := by
  simp [toDocument, ofDocument?, Document.fields?, Document.required?, Document.optional?,
    Document.text?, List.lookup_cons, Document.list?_ofTexts]

end RuleConfig

/-! ### Limits -/

namespace Template.Limits

/-- Both limits are counts of 64 bits. -/
structure InRange (l : Limits) : Prop where
  maxDepth_lt : l.maxDepth < Text.indexBound
  maxLength_lt : l.maxLength < Text.indexBound

def record : Record Limits := ⟨toDocument, ofDocument?, InRange⟩

theorem inRange_standard : standard.InRange := ⟨by decide, by decide⟩

@[simp]
theorem isReadable_toDocument (l : Limits) : Json.IsReadable l.toDocument := by
  simp [toDocument]

theorem ofDocument?_toDocument (dialect : Document.Dialect) {l : Limits} (h : l.InRange) :
    ofDocument? dialect l.toDocument = some l := by
  simp [toDocument, ofDocument?, Document.fields?, Document.optional?, List.lookup_cons,
    Document.index?_ofNat h.maxDepth_lt, Document.index?_ofNat h.maxLength_lt]

theorem inRange_of_ofDocument? {dialect : Document.Dialect} {d : Document} {l : Limits}
    (h : ofDocument? dialect d = some l) : l.InRange := by
  simp only [ofDocument?, Option.bind_eq_bind, Option.bind_eq_some_iff] at h
  obtain ⟨fields, -, maxDepth, hdepth, maxLength, hlength, heq⟩ := h
  cases heq
  refine ⟨?_, ?_⟩
  · rcases Document.optional?_eq_some hdepth with rfl | ⟨d, hd⟩
    · exact inRange_standard.maxDepth_lt
    · exact Document.lt_of_index? hd
  · rcases Document.optional?_eq_some hlength with rfl | ⟨d, hd⟩
    · exact inRange_standard.maxLength_lt
    · exact Document.lt_of_index? hd

end Template.Limits

/-! ### Logging -/

theorem LogFormat.ofName?_name (f : LogFormat) : ofName? f.name = some f := by
  cases f <;> rfl

namespace Logging

/-- A setting of the log as a record. -/
def record : Record Logging := ⟨toDocument, ofDocument?, fun _ => True⟩

@[simp]
theorem isReadable_toDocument (l : Logging) : Json.IsReadable l.toDocument := by
  simp [toDocument]

theorem ofDocument?_toDocument (dialect : Document.Dialect) (l : Logging) :
    ofDocument? dialect l.toDocument = some l := by
  simp [toDocument, ofDocument?, Document.fields?, Document.optional?, Document.word?,
    Document.text?, List.lookup_cons, LogFormat.ofName?_name]

end Logging

/-! ### Configuration -/

namespace Config

def record : Record Config := ⟨toDocument, ofDocument?, fun c => c.limits.InRange⟩

@[simp]
theorem isReadable_toDocument (c : Config) : Json.IsReadable c.toDocument := by
  simp [toDocument]

theorem ofDocument?_toDocument (dialect : Document.Dialect) {c : Config} (h : c.limits.InRange) :
    ofDocument? dialect c.toDocument = some c := by
  have hrules := Document.list?_map (RuleConfig.ofDocument?_toDocument dialect) c.rules
  simp [toDocument, ofDocument?, Document.fields?, Document.optional?, List.lookup_cons,
    Limits.ofDocument?_toDocument dialect h, Logging.ofDocument?_toDocument, hrules]

theorem inRange_of_ofDocument? {dialect : Document.Dialect} {d : Document} {c : Config}
    (h : ofDocument? dialect d = some c) : c.limits.InRange := by
  simp only [ofDocument?, Option.bind_eq_bind, Option.bind_eq_some_iff] at h
  obtain ⟨fields, -, limits, hlimits, logging, -, rules, -, heq⟩ := h
  cases heq
  rcases Document.optional?_eq_some hlimits with rfl | ⟨d, hd⟩
  · exact Limits.inRange_standard
  · exact Limits.inRange_of_ofDocument? hd

end Config

/-! ### Headers that explain a key -/

namespace DebugHeaders

/-- What is told about a key as a record. -/
def record : Record DebugHeaders := ⟨toDocument, ofDocument?, fun _ => True⟩

@[simp]
theorem isReadable_toDocument (h : DebugHeaders) : Json.IsReadable h.toDocument := by
  simp [toDocument]

theorem ofDocument?_toDocument (dialect : Document.Dialect) (h : DebugHeaders) :
    ofDocument? dialect h.toDocument = some h := by
  simp [toDocument, ofDocument?, Document.fields?, Document.required?, Document.optional?,
    Document.bool?, List.lookup_cons, Document.list?_ofTexts, Document.nullable?_ofText?]

end DebugHeaders

/-! ### All of them -/

/-- The configuration and its parts, and what is told about a key, survive their JSON texts; so does
whatever is read from any JSON text, sections left out, in another order or among unknown ones. -/
theorem configuration_survives_json :
    RuleConfig.record.IsStable ∧ Limits.record.IsStable ∧ Logging.record.IsStable ∧
      Config.record.IsStable ∧ DebugHeaders.record.IsStable := by
  refine ⟨?_, ?_, ?_, ?_, ?_⟩
  · exact Record.isStable RuleConfig.isReadable_toDocument
      (fun c _ => RuleConfig.ofDocument?_toDocument _ c) fun _ _ _ => trivial
  · exact Record.isStable Limits.isReadable_toDocument
      (fun _ h => Limits.ofDocument?_toDocument _ h) fun _ _ => Limits.inRange_of_ofDocument?
  · exact Record.isStable Logging.isReadable_toDocument
      (fun l _ => Logging.ofDocument?_toDocument _ l) fun _ _ _ => trivial
  · exact Record.isStable Config.isReadable_toDocument
      (fun _ h => Config.ofDocument?_toDocument _ h) fun _ _ => Config.inRange_of_ofDocument?
  · exact Record.isStable DebugHeaders.isReadable_toDocument
      (fun h _ => DebugHeaders.ofDocument?_toDocument _ h) fun _ _ _ => trivial

/-- Two sections are left out, one is unknown, and a rule has its fields in another order and no
inputs. -/
theorem configuration_survives_json_without_sections :
    let text := "\x7b\"other\":[1],\"rules\":[\x7b\"template\":\"a\",\"name\":\"r\"\x7d]\x7d"
    let c : Config := ⟨Limits.standard, Logging.standard, [⟨"r", "a", []⟩]⟩
    Config.record.ofJson? text = some c ∧ c.limits.InRange ∧ Config.record.Survives c := by
  intro text c
  have hread : Config.record.ofJson? text = some c := by decide
  exact ⟨hread, configuration_survives_json.2.2.2.1.survives_of_ofJson? text c hread⟩

end CacheKeys
