import CacheKeys.Document.Basic
import CacheKeys.Sentinel

/-! # Cache keys

A key with the rule that derived it and the values that the rule saw, the document form in which it
is stored, and the headers that explain it. -/

namespace CacheKeys

/-- A key that a rule derived from a request; the components are the values of the rule's inputs, in
order. -/
structure CacheKey where
  key : String
  rule : String
  components : List String
  deriving DecidableEq

namespace CacheKey

/-- Whether the key shows that its rule is misconfigured. -/
def hasSentinel (k : CacheKey) : Bool := Sentinel.isPresentIn k.key

/-- The key as a document; without components their field is left out. -/
def toDocument (k : CacheKey) : Document :=
  .table ([("key", .text k.key), ("rule", .text k.rule)] ++
    if k.components.isEmpty then [] else [("components", .ofTexts k.components)])

/-- Reads a key; all three fields have to be there. -/
def ofDocument? (dialect : Document.Dialect) (d : Document) : Option CacheKey := do
  let fields ← d.fields? ["key", "rule", "components"] dialect
  let key ← Document.required? fields "key" Document.text?
  let rule ← Document.required? fields "rule" Document.text?
  let components ← Document.required? fields "components" (Document.list? Document.text?)
  return ⟨key, rule, components⟩

end CacheKey

/-- What is told about the derivation of a key. -/
structure DebugHeaders where
  cacheKey : Option String
  rule : Option String
  inputs : List String
  hasSentinel : Bool
  deriving DecidableEq

namespace DebugHeaders

/-- Everything that is known about a key. -/
def ofKey (k : CacheKey) : DebugHeaders := ⟨some k.key, some k.rule, k.components, k.hasSentinel⟩

/-- The headers that tell it, by name; what is not known has no header. -/
def toHeaders (h : DebugHeaders) : List (String × String) :=
  (h.cacheKey.toList.map fun k => ("X-Cache-Key", k)) ++
  (h.rule.toList.map fun r => ("X-Cache-Key-Rule", r)) ++
  (if h.inputs.isEmpty then [] else [("X-Cache-Key-Inputs", String.intercalate ", " h.inputs)]) ++
  (if h.hasSentinel then [("X-Cache-Key-Sentinel", "true")] else [])

/-- The same as a document. -/
def toDocument (h : DebugHeaders) : Document :=
  .table [("cache_key", .ofText? h.cacheKey), ("rule", .ofText? h.rule),
    ("inputs", .ofTexts h.inputs), ("has_sentinel", .bool h.hasSentinel)]

/-- Reads what is told about a key; key and rule may be left out. -/
def ofDocument? (dialect : Document.Dialect) (d : Document) : Option DebugHeaders := do
  let fields ← d.fields? ["cache_key", "rule", "inputs", "has_sentinel"] dialect
  let cacheKey ← Document.optional? fields "cache_key" none (Document.nullable? Document.text?)
  let rule ← Document.optional? fields "rule" none (Document.nullable? Document.text?)
  let inputs ← Document.required? fields "inputs" (Document.list? Document.text?)
  let hasSentinel ← Document.required? fields "has_sentinel" Document.bool?
  return ⟨cacheKey, rule, inputs, hasSentinel⟩

end DebugHeaders

end CacheKeys
