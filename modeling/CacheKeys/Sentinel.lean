import CacheKeys.Text.Ascii

/-! # Sentinels

A part of a template that cannot be evaluated leaves a marker in the key, so that a misconfigured
rule shows in the keys that it derives. -/

namespace CacheKeys

/-- Why a part of a template has no value: a wrong number of arguments or a context index without a
value, or an argument that is no integer where one is needed. -/
inductive Sentinel where
  | argCount
  | badType
  deriving DecidableEq

namespace Sentinel

/-- All sentinels, in the order in which keys are searched for them. -/
def all : List Sentinel := [argCount, badType]

/-- The marker that stands in the key. -/
def marker : Sentinel → String
  | argCount => "<ARGN>"
  | badType => "<BAD-TYPE>"

/-- The sentinels whose markers a key holds. -/
def foundIn (key : String) : List Sentinel :=
  all.filter fun s => Text.holds key s.marker

def isPresentIn (key : String) : Bool :=
  all.any fun s => Text.holds key s.marker

end Sentinel

end CacheKeys
