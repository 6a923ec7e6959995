import Mathlib
import CacheKeys.Proofs.Request.Settings
import CacheKeys.Proofs.Rule.Loading
import CacheKeys.Request.Http

/-! # What a request takes from HTTP headers

`readableValues` are the values of one name, however it is spelt, that are visible ASCII, as texts.
One more header adds its value to those of its name, if it can be read, and leaves all other names
alone (`get?_headers_addHeader`).  So after any headers the value of a name is the join of its
readable values, cookies are those of the readable cookie headers, the last one of a name, and the
device is that of the joined user agent.  Nothing else of the headers counts: headers that give
every name the same readable values make the same request (`ofHttp_keeps_readable_values`), in
whichever order different names come. -/

namespace CacheKeys

/-! ### Tables of pairs -/

namespace NameTable
variable {α : Type}

theorem insertAll_append (t : NameTable α) (ps qs : List (String × α)) :
    t.insertAll (ps ++ qs) = (t.insertAll ps).insertAll qs := by
  rw [insertAll, List.foldl_append]
  rfl

/-- After insertions a name has the value that was given last, or else its old one. -/
theorem get?_insertAll (t : NameTable α) (ps : List (String × α)) (name : String) :
    (t.insertAll ps).get? name =
      ((ps.filter fun p => p.1 = name).map Prod.snd).getLast?.or (t.get? name) := by
  induction ps using List.reverseRecOn with
  | nil => rfl
  | append_singleton ps p ih =>
      rw [insertAll_append, List.filter_append, List.map_append]
      have hone : ((t.insertAll ps).insertAll [p]).get? name =
          if name = p.1 then some p.2 else (t.insertAll ps).get? name :=
        get?_insert _ p.1 name p.2
      by_cases hname : p.1 = name
      · rw [hone, if_pos hname.symm]
        simp [hname]
      · rw [hone, if_neg (Ne.symm hname), ih]
        simp [hname]

end NameTable

/-! ### Headers that can be sent -/

namespace HttpRequest

/-- A name and a value that can be sent as a header. -/
structure IsHeader (p : String × List UInt8) : Prop where
  isToken : isToken p.1 = true
  length_le : p.1.length ≤ maxNameLength
  isValue : p.2.all isValueByte = true

instance (p : String × List UInt8) : Decidable (IsHeader p) :=
  decidable_of_iff
    (HttpRequest.isToken p.1 = true ∧ p.1.length ≤ maxNameLength ∧ p.2.all isValueByte = true)
    ⟨fun ⟨ht, hl, hv⟩ => ⟨ht, hl, hv⟩, fun ⟨ht, hl, hv⟩ => ⟨ht, hl, hv⟩⟩

/-- The values of a name, which is given in lowercase, that can be read, in order. -/
def readableValues (headers : List (String × List UInt8)) (name : String) : List String :=
  (headers.filter fun p => p.1.toLower = name).filterMap fun p => text? p.2

/-- The value of a header that was sent with values: they are joined. -/
def joined? : List String → Option String
  | [] => none
  | v :: vs => some (String.intercalate ", " (v :: vs))

theorem header_eq_ok {p : String × List UInt8} (h : IsHeader p) :
    header p.1 p.2 = .ok (p.1.toLower, p.2) := by
  have hlength : ¬p.1.length > maxNameLength := Nat.not_lt.2 h.length_le
  simp [header, h.isToken, h.isValue, hlength]

theorem ofParts_eq_ok {method uri : String} {target : Target}
    {headers : List (String × List UInt8)} (hm : isToken method = true)
    (ht : Target.ofText? uri = some target) (hh : ∀ p ∈ headers, IsHeader p) :
    ofParts method uri headers =
      .ok ⟨method, target, headers.map fun p => (p.1.toLower, p.2)⟩ := by
  have hmap : headers.mapM (fun p => header p.1 p.2) =
      (.ok (headers.map fun p => (p.1.toLower, p.2)) : Except HttpError _) :=
    mapM_eq_ok_iff.2 (List.forall₂_map_right_iff.2
      (List.forall₂_same.2 fun p hp => header_eq_ok (hh p hp)))
  simp [ofParts, hm, ht, hmap]

theorem readableValues_append (hs hs' : List (String × List UInt8)) (name : String) :
    readableValues (hs ++ hs') name = readableValues hs name ++ readableValues hs' name := by
  simp [readableValues]

theorem readableValues_singleton (p : String × List UInt8) (name : String) :
    readableValues [p] name = if p.1.toLower = name then (text? p.2).toList else [] := by
  rw [readableValues, List.filter_singleton]
  by_cases hname : p.1.toLower = name
  · cases htext : text? p.2 <;> simp [hname, htext]
  · simp [hname]

theorem readableValues_eq_nil {headers : List (String × List UInt8)} {name : String}
    {names : List String} (hname : name ∉ names) (h : ∀ p ∈ headers, p.1.toLower ∈ names) :
    readableValues headers name = [] := by
  have hnone : headers.filter (fun p => p.1.toLower = name) = [] := by
    rw [List.filter_eq_nil_iff]
    intro p hp hmatch
    exact hname (of_decide_eq_true hmatch ▸ h p hp)
  rw [readableValues, hnone]
  rfl

/-- What one more value of a header makes of its value. -/
def joinTo (v : String) : Option String → String
  | some earlier => earlier ++ ", " ++ v
  | none => v

theorem joined?_append_singleton (vs : List String) (v : String) :
    joined? (vs ++ [v]) = some (joinTo v (joined? vs)) := by
  cases vs with
  | nil => rfl
  | cons w ws =>
      have hjoin := String.intercalate_append_of_ne_nil (List.cons_ne_nil w ws)
        (List.cons_ne_nil v []) (s := ", ")
      rw [String.intercalate_singleton] at hjoin
      exact congrArg some hjoin

end HttpRequest

/-! ### One more header -/

namespace Request

open HttpRequest

/-- Adds headers, one after another, with their names in lowercase. -/
def addHeaders (r : Request) (headers : List (String × List UInt8)) : Request :=
  headers.foldl (fun r p => r.addHeader p.1.toLower p.2) r

theorem addHeaders_append_singleton (r : Request) (hs : List (String × List UInt8))
    (p : String × List UInt8) :
    r.addHeaders (hs ++ [p]) = (r.addHeaders hs).addHeader p.1.toLower p.2 := by
  simp [addHeaders]

theorem addHeader_of_text?_eq_none {value : List UInt8} (h : text? value = none) (r : Request)
    (name : String) : r.addHeader name value = r := by
  rw [addHeader, h]

/-- A header that can be read is joined to those of its name. -/
theorem get?_headers_addHeader {value : List UInt8} {text : String} (h : text? value = some text)
    (r : Request) (name other : String) :
    (r.addHeader name value).headers.get? other =
      if name = other then some (joinTo text (r.headers.get? other))
      else r.headers.get? other := by
  rw [addHeader, h]
  refine (r.headers.get?_set name other (joinTo text)).trans ?_
  by_cases hname : name = other
  · simp [hname]
  · simp [hname, Ne.symm hname]

/-- A cookie header that can be read sets its cookies. -/
theorem cookies_addHeader {value : List UInt8} {text : String} (h : text? value = some text)
    (r : Request) (name : String) :
    (r.addHeader name value).cookies =
      r.cookies.insertAll (if name = "cookie" then Cookie.pairs text else []) := by
  rw [addHeader, h]
  by_cases hname : name = "cookie"
  · simp [hname]
  · simp [hname]
    rfl

/-- Headers change nothing but headers and cookies. -/
theorem addHeader_eq (r : Request) (name : String) (value : List UInt8) :
    r.addHeader name value =
      { r with
        headers := (r.addHeader name value).headers
        cookies := (r.addHeader name value).cookies } := by
  unfold addHeader
  split
  · rfl
  · rfl

/-! ### All headers -/

theorem addHeaders_eq (r : Request) (hs : List (String × List UInt8)) :
    r.addHeaders hs =
      { r with headers := (r.addHeaders hs).headers, cookies := (r.addHeaders hs).cookies } := by
  induction hs using List.reverseRecOn with
  | nil => rfl
  | append_singleton hs p ih =>
      rw [addHeaders_append_singleton, addHeader_eq, ih]

section
variable {r : Request} (hs : List (String × List UInt8))

/-- The value of a name is the join of its readable values. -/
theorem get?_headers_addHeaders (hr : r.headers = .empty) (name : String) :
    (r.addHeaders hs).headers.get? name = joined? (readableValues hs name) := by
  induction hs using List.reverseRecOn with
  | nil =>
      rw [addHeaders, List.foldl_nil, hr]
      rfl
  | append_singleton hs p ih =>
      rw [addHeaders_append_singleton, readableValues_append, readableValues_singleton]
      cases htext : text? p.2 with
      | none => simp [addHeader_of_text?_eq_none htext, ih]
      | some text =>
          rw [get?_headers_addHeader htext, ih]
          split
          · rw [Option.toList_some, joined?_append_singleton]
          · rw [List.append_nil]

/-- The cookies are those of the readable cookie headers. -/
theorem cookies_addHeaders (hr : r.cookies = .empty) :
    (r.addHeaders hs).cookies =
      .ofList ((readableValues hs "cookie").flatMap Cookie.pairs) := by
  induction hs using List.reverseRecOn with
  | nil => exact hr
  | append_singleton hs p ih =>
      rw [addHeaders_append_singleton, readableValues_append, readableValues_singleton,
        List.flatMap_append]
      cases htext : text? p.2 with
      | none => simp [addHeader_of_text?_eq_none htext, ih]
      | some text =>
          rw [cookies_addHeader htext, ih, NameTable.ofList, NameTable.ofList,
            NameTable.insertAll_append]
          split
          · simp
          · simp

end

/-! ### Requests over HTTP -/

/-- The data of an HTTP request without its headers. -/
def ofTarget (method : String) (target : Target) : Request :=
  { make method target.path with
    query := match target.query with
      | some q => NameTable.ofList (Form.pairs q)
      | none => .empty }

theorem ofHttp_eq (method : String) (target : Target) (headers : List (String × List UInt8)) :
    ofHttp ⟨method, target, headers.map fun p => (p.1.toLower, p.2)⟩ =
      ((ofTarget method target).addHeaders headers).detectDevice := by
  rw [ofHttp, addHeaders, List.foldl_map]
  rfl

section
variable (method : String) (target : Target) (headers : List (String × List UInt8))

theorem header?_addHeaders_ofTarget (name : String) :
    ((ofTarget method target).addHeaders headers).header? name =
      joined? (readableValues headers name.toLower) :=
  get?_headers_addHeaders headers rfl name.toLower

theorem get?_cookies_addHeaders_ofTarget (name : String) :
    ((ofTarget method target).addHeaders headers).cookies.get? name =
      ((((readableValues headers "cookie").flatMap Cookie.pairs).filter fun p => p.1 = name).map
        Prod.snd).getLast? := by
  rw [cookies_addHeaders headers rfl, NameTable.ofList, NameTable.get?_insertAll]
  exact Option.or_none

/-- Nothing but the readable values of each name counts. -/
theorem addHeaders_ofTarget_congr {headers headers' : List (String × List UInt8)}
    (h : ∀ name, readableValues headers' name = readableValues headers name) :
    (ofTarget method target).addHeaders headers' = (ofTarget method target).addHeaders headers := by
  have hheaders : ((ofTarget method target).addHeaders headers').headers =
      ((ofTarget method target).addHeaders headers).headers := by
    refine NameTable.ext_get? fun name => ?_
    rw [get?_headers_addHeaders headers' rfl, get?_headers_addHeaders headers rfl, h]
  have hcookies : ((ofTarget method target).addHeaders headers').cookies =
      ((ofTarget method target).addHeaders headers).cookies := by
    rw [cookies_addHeaders headers' rfl, cookies_addHeaders headers rfl, h]
  rw [addHeaders_eq _ headers', addHeaders_eq _ headers, hheaders, hcookies]

end

/-- An HTTP request with valid headers gives a request in which a header is the join of the readable
values of its name, a cookie has the value that the readable cookie headers give it last, and the
device is that of the joined user agent.  Valid headers that give every name the same readable
values, in order, make the same request: names can be spelt and different names be ordered in any
way. -/
theorem ofHttp_keeps_readable_values {method uri : String} {target : Target}
    {headers : List (String × List UInt8)} (hm : isToken method = true)
    (ht : Target.ofText? uri = some target) (hh : ∀ p ∈ headers, IsHeader p) :
    ∃ h, HttpRequest.ofParts method uri headers = .ok h ∧
      (∀ name, (ofHttp h).header? name = joined? (readableValues headers name.toLower)) ∧
      (∀ name, (ofHttp h).cookies.get? name =
        ((((readableValues headers "cookie").flatMap Cookie.pairs).filter fun p => p.1 = name).map
          Prod.snd).getLast?) ∧
      (ofHttp h).device =
        (joined? (readableValues headers "user-agent")).map Device.ofUserAgent ∧
      ∀ headers', (∀ p ∈ headers', IsHeader p) →
        (∀ name, readableValues headers' name = readableValues headers name) →
        ∃ h', HttpRequest.ofParts method uri headers' = .ok h' ∧ ofHttp h' = ofHttp h := by
  refine ⟨_, ofParts_eq_ok hm ht hh, ?_⟩
  rw [ofHttp_eq]
  refine ⟨header?_addHeaders_ofTarget method target headers,
    get?_cookies_addHeaders_ofTarget method target headers, ?_, ?_⟩
  · have hagent : "user-agent".toLower = "user-agent" := by decide +kernel
    rw [detectDevice, header?_addHeaders_ofTarget, hagent]
  · intro headers' hh' hsame
    refine ⟨_, ofParts_eq_ok hm ht hh', ?_⟩
    rw [ofHttp_eq, addHeaders_ofTarget_congr method target hsame]

/-- Values of one name in three spellings, one of them empty and one no text, between two cookie
headers that give a cookie a value; and the same with the names in another order. -/
theorem ofHttp_keeps_readable_values_interleaved :
    let headers : List (String × List UInt8) :=
      encoded [("Accept", "de"), ("COOKIE", "x=1; y=2")] ++ ("accept", [0x64, 0xFF]) ::
        encoded [("Cookie", "x=3"), ("ACCEPT", ""), ("User-Agent", "bot")]
    let headers' : List (String × List UInt8) := encoded [("user-agent", "bot"),
      ("cookie", "x=1; y=2"), ("cookie", "x=3"), ("accept", "de"), ("accept", "")]
    HttpRequest.isToken "GET" = true ∧ Target.ofText? "/p?q=1" = some ⟨"/p", some "q=1"⟩ ∧
    (∀ p ∈ headers, IsHeader p) ∧ (∀ p ∈ headers', IsHeader p) ∧
    ∃ h, HttpRequest.ofParts "GET" "/p?q=1" headers = .ok h ∧
      (ofHttp h).header? "aCCept" = some "de, " ∧
      (ofHttp h).cookies.get? "x" = some "3" ∧
      (ofHttp h).device = some .bot ∧
      ∃ h', HttpRequest.ofParts "GET" "/p?q=1" headers' = .ok h' ∧ ofHttp h' = ofHttp h := by
  intro headers headers'
  have hm : HttpRequest.isToken "GET" = true := by decide +kernel
  have ht : Target.ofText? "/p?q=1" = some ⟨"/p", some "q=1"⟩ := rfl
  have hh : ∀ p ∈ headers, IsHeader p := by decide +kernel
  have hh' : ∀ p ∈ headers', IsHeader p := by decide +kernel
  have hspelt : "aCCept".toLower = "accept" := by decide +kernel
  obtain ⟨h, hmake, hheader, hcookie, hdevice, hsame⟩ := ofHttp_keeps_readable_values hm ht hh
  refine ⟨hm, ht, hh, hh', h, hmake, ?_, ?_, ?_, ?_⟩
  · rw [hheader, hspelt]
    decide +kernel
  · rw [hcookie]
    decide +kernel
  · rw [hdevice]
    decide +kernel
  · refine hsame _ hh' fun name => ?_
    by_cases hname : name ∈ ["accept", "cookie", "user-agent"]
    · revert name
      decide +kernel
    · rw [readableValues_eq_nil hname (by decide +kernel),
        readableValues_eq_nil hname (by decide +kernel)]

end Request

end CacheKeys
