import CacheKeys.Text.CaseMap
import CacheKeys.Text.Space

/-! # Devices

The kind of device that a request comes from, as its user agent tells. -/

namespace CacheKeys

inductive Device where
  | desktop
  | mobile
  | tablet
  | bot
  | unknown
  deriving DecidableEq

namespace Device

def all : List Device := [desktop, mobile, tablet, bot, unknown]

def name : Device → String
  | desktop => "desktop"
  | mobile => "mobile"
  | tablet => "tablet"
  | bot => "bot"
  | unknown => "unknown"

def ofName? (s : String) : Option Device := all.find? fun d => d.name == s

/-- The kind that a user agent names.  Programs come before hand-held devices, a hand-held device
that also calls itself a tablet is one, and a blank agent tells nothing. -/
def ofUserAgent (agent : String) : Device :=
  if (Text.trimSpaces agent).isEmpty then unknown
  else
    let names := fun needle => Text.holds (Text.lower agent) needle
    if names "bot" || names "crawler" || names "spider" then bot
    else if names "tablet" || names "ipad" then tablet
    else if names "mobile" || names "android" then mobile
    else desktop

end Device

end CacheKeys
