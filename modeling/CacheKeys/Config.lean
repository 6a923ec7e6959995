import CacheKeys.Rule.Basic

/-! # Configuration

The contents of a configuration file: limits for templates, how the program logs, and the rules.
Every section may be left out. -/

namespace CacheKeys

open Template

namespace Template.Limits

def toDocument (l : Limits) : Document :=
  .table [("max_depth", .ofNat l.maxDepth), ("max_template_len", .ofNat l.maxLength)]

/-- Reads limits; each may be left out. -/
def ofDocument? (dialect : Document.Dialect) (d : Document) : Option Limits := do
  let fields ← d.fields? ["max_depth", "max_template_len"] dialect
  let maxDepth ← Document.optional? fields "max_depth" standard.maxDepth Document.index?
  let maxLength ← Document.optional? fields "max_template_len" standard.maxLength Document.index?
  return ⟨maxDepth, maxLength⟩

end Template.Limits

/-- The form of log lines: for people or for programs. -/
inductive LogFormat where
  | human
  | json
  deriving DecidableEq

namespace LogFormat

def name : LogFormat → String
  | human => "human"
  | json => "json"

def ofName? (s : String) : Option LogFormat := [human, json].find? fun f => f.name == s

end LogFormat

/-- How the program logs, and which lines. -/
structure Logging where
  format : LogFormat
  level : String
  deriving DecidableEq

namespace Logging

/-- Warnings, for people. -/
def standard : Logging := ⟨.human, "warn"⟩

def toDocument (l : Logging) : Document :=
  .table [("format", .text l.format.name), ("level", .text l.level)]

/-- Reads a setting; each part may be left out. -/
def ofDocument? (dialect : Document.Dialect) (d : Document) : Option Logging := do
  let fields ← d.fields? ["format", "level"] dialect
  let format ← Document.optional? fields "format" standard.format
    (Document.word? LogFormat.ofName? dialect)
  let level ← Document.optional? fields "level" standard.level Document.text?
  return ⟨format, level⟩

end Logging

/-- The contents of a configuration file; the limits apply to every template. -/
structure Config where
  limits : Limits
  logging : Logging
  rules : List RuleConfig
  deriving DecidableEq

namespace Config

/-- Nothing configured. -/
def standard : Config := ⟨Limits.standard, Logging.standard, []⟩

def toDocument (c : Config) : Document :=
  .table [("limits", c.limits.toDocument), ("logging", c.logging.toDocument),
    ("rules", .list (c.rules.map (·.toDocument)))]

/-- Reads a configuration; each section may be left out. -/
def ofDocument? (dialect : Document.Dialect) (d : Document) : Option Config := do
  let fields ← d.fields? ["limits", "logging", "rules"] dialect
  let limits ← Document.optional? fields "limits" Limits.standard (Limits.ofDocument? dialect)
  let logging ← Document.optional? fields "logging" Logging.standard (Logging.ofDocument? dialect)
  let rules ← Document.optional? fields "rules" [] (Document.list? (RuleConfig.ofDocument? dialect))
  return ⟨limits, logging, rules⟩

end Config

end CacheKeys
