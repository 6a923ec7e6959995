import Mathlib
import CacheKeys.CommandLine.Rules
import CacheKeys.Proofs.Request.Fields
import CacheKeys.Proofs.Request.Headers

/-! # Simulated requests and HTTP requests

A simulated request sets its headers by name, so that of several values of a name the last one
stays, while an HTTP request joins them; and only an HTTP request has the cookies of its cookie
headers.  With visible values the two are the same exactly if no name is given twice and no cookie
header holds a pair (`request_agrees_iff`), and no key tells them apart exactly if no name is given
twice and no cookie has a value. -/

namespace CacheKeys

/-! ### One value or several -/

namespace HttpRequest

theorem joined?_of_length_le_one {vs : List String} (h : vs.length ≤ 1) :
    joined? vs = vs.getLast? := by
  match vs, h with
  | [], _ => rfl
  | [v], _ => simp [joined?]

/-- Joined values are longer than the last of them. -/
theorem length_le_one_of_joined? {vs : List String}
    (h : (joined? vs).getD "" = vs.getLast?.getD "") : vs.length ≤ 1 := by
  cases vs using List.reverseRecOn with
  | nil => exact Nat.zero_le 1
  | append_singleton us v =>
      cases us with
      | nil => exact Nat.le_refl 1
      | cons u us =>
          have hlength := congrArg String.length h
          rw [joined?_append_singleton, List.getLast?_append] at hlength
          simp [joined?, joinTo] at hlength

/-- Whether a text is of visible ASCII characters, spaces and tabs. -/
def isVisibleText (s : String) : Bool :=
  s.toList.all fun c => c == '\t' || (c.toNat ≥ 32 && c.toNat < 127)

/-- A visible character is one visible byte. -/
theorem utf8EncodeChar_visible {c : Char} (h : c = '\t' ∨ 32 ≤ c.toNat ∧ c.toNat < 127) :
    ∃ b : UInt8, String.utf8EncodeChar c = [b] ∧ Char.ofNat b.toNat = c ∧ isVisible b = true := by
  have hlt : c.toNat < 127 := by
    rcases h with rfl | h
    · decide
    · exact h.2
  have hb : (UInt8.ofNat c.toNat).toNat = c.toNat := by
    rw [UInt8.toNat_ofNat']
    omega
  refine ⟨UInt8.ofNat c.toNat, ?_, by rw [hb, Char.ofNat_toNat], ?_⟩
  · have hsize : c.utf8Size = 1 := by
      rw [Char.utf8Size_eq_one_iff, UInt32.le_iff_toNat_le]
      exact hlt.le
    exact String.utf8EncodeChar_eq_singleton hsize
  · rcases h with rfl | ⟨hle, -⟩
    · decide
    · have hge : (32 : UInt8) ≤ UInt8.ofNat c.toNat :=
        UInt8.le_iff_toNat_le.2 (hle.trans_eq hb.symm)
      have hlt' : UInt8.ofNat c.toNat < (127 : UInt8) :=
        UInt8.lt_iff_toNat_lt.2 (hb.trans_lt hlt)
      simp [isVisible, hge, hlt']

theorem flatMap_utf8EncodeChar_visible {cs : List Char}
    (h : ∀ c ∈ cs, c = '\t' ∨ 32 ≤ c.toNat ∧ c.toNat < 127) :
    (cs.flatMap String.utf8EncodeChar).all isVisible = true ∧
      (cs.flatMap String.utf8EncodeChar).map (fun b => Char.ofNat b.toNat) = cs := by
  induction cs with
  | nil => exact ⟨rfl, rfl⟩
  | cons c cs ih =>
      obtain ⟨hc, hcs⟩ := List.forall_mem_cons.1 h
      obtain ⟨b, hencode, hchar, hvisible⟩ := utf8EncodeChar_visible hc
      obtain ⟨hall, hmap⟩ := ih hcs
      rw [List.flatMap_cons, hencode]
      simp [hvisible, hchar, hall, hmap]

/-- A visible text is read as it was sent. -/
theorem text?_encode {s : String} (h : isVisibleText s = true) :
    text? (Text.Utf8.encode s) = some s := by
  have hchars : ∀ c ∈ s.toList, c = '\t' ∨ 32 ≤ c.toNat ∧ c.toNat < 127 := by
    simpa [isVisibleText] using h
  obtain ⟨hall, hmap⟩ := flatMap_utf8EncodeChar_visible hchars
  rw [text?, Text.Utf8.encode, if_pos hall, hmap, String.ofList_toList]

theorem readableValues_encoded {headers : List (String × String)}
    (hv : ∀ p ∈ headers, isVisibleText p.2 = true) (name : String) :
    readableValues (encoded headers) name =
      ((headers.map fun p => (p.1.toLower, p.2)).filter fun p => p.1 = name).map Prod.snd := by
  rw [List.filter_map, List.map_map, readableValues, encoded, List.filter_map, List.filterMap_map,
    ← List.filterMap_eq_map]
  refine List.filterMap_congr fun p hp => ?_
  exact text?_encode (hv p (List.mem_of_mem_filter hp))

end HttpRequest

theorem nodup_map_fst_iff {α : Type} {ps : List (String × α)} :
    (ps.map Prod.fst).Nodup ↔
      ∀ name, ((ps.filter fun p => p.1 = name).map Prod.snd).length ≤ 1 := by
  rw [List.nodup_iff_count_le_one]
  refine forall_congr' fun name => ?_
  rw [List.count_eq_countP, List.countP_map, List.countP_eq_length_filter, List.length_map]
  simp only [Function.comp_def, beq_eq_decide]

theorem NameTable.ofList_eq_empty_iff {α : Type} {ps : List (String × α)} :
    ofList ps = empty ↔ ps = [] := by
  constructor
  · intro h
    by_contra hne
    obtain ⟨p, ps, rfl⟩ := List.exists_cons_of_ne_nil hne
    have hget := get?_insertAll empty (p :: ps) p.1
    rw [← ofList, h] at hget
    cases hlast : (((p :: ps).filter fun q => q.1 = p.1).map Prod.snd).getLast? with
    | none => simp at hlast
    | some v =>
        rw [hlast] at hget
        cases hget
  · rintro rfl
    rfl

namespace Request

/-! ### Keys that tell requests apart -/

/-- A rule whose key is the value of a field. -/
def showing (f : Field) : Rule := ⟨"shown", ⟨"\x7b0\x7d", [.argRef 0], []⟩, [f]⟩

theorem key_derive_showing (f : Field) (r : Request) :
    ((showing f).derive r).key = f.resolve r := by
  simp [showing, Rule.derive, Rule.deriveWith, Rule.context, Template.Compiled.evaluateWith,
    Template.Stage.renderAllWith, Template.Stage.renderWith, Template.Context.get?]

/-- No key tells requests apart exactly if no field does. -/
theorem forall_key_eq_iff {r s : Request} :
    (∀ rule : Rule, (rule.derive r).key = (rule.derive s).key) ↔
      ∀ f : Field, f.resolve r = f.resolve s := by
  constructor
  · intro h f
    rw [← key_derive_showing, ← key_derive_showing, h]
  · intro h rule
    have hcontext : rule.context r = rule.context s := by
      simp only [Rule.context, h]
    rw [Rule.derive, Rule.deriveWith, hcontext]
    rfl

theorem detectDevice_of_device_eq_none {r : Request} (h : r.device = none) :
    r.detectDevice =
      match r.header? "user-agent" with
      | some agent => r.withDevice (Device.ofUserAgent agent)
      | none => r := by
  rw [detectDevice]
  cases r.header? "user-agent" with
  | some agent => rfl
  | none =>
      obtain ⟨⟩ := r
      cases h
      rfl

end Request

namespace CommandLine

open HttpRequest

/-! ### Simulated requests -/

/-- A request that is simulated by headers alone. -/
def Simulation.ofHeaders (method path : String) (headers : List (String × String)) : Simulation :=
  ⟨method, path, headers.map fun p => p.1 ++ "=" ++ p.2, [], [], none, none, none, none⟩

theorem readPair_of_isToken {name : String} (h : isToken name = true) (value : String) :
    readPair (name ++ "=" ++ value) = .ok (name, value) := by
  rw [isToken, Bool.and_eq_true, List.all_eq_true] at h
  have hequals : '=' ∉ name.toList := fun hc => absurd (h.2 '=' hc) (by decide)
  have hsplit : Text.splitFirst? '=' (name ++ "=" ++ value) = some (name, value) :=
    Text.splitFirst?_append hequals value
  rw [readPair, hsplit]
  simpa using h.1

theorem addPairs_eq_ok {add : Request → String → String → Request} {ps : List (String × String)}
    (h : ∀ p ∈ ps, isToken p.1 = true) (r : Request) :
    addPairs add r (ps.map fun p => p.1 ++ "=" ++ p.2) =
      .ok (ps.foldl (fun r p => add r p.1 p.2) r) := by
  induction ps generalizing r with
  | nil => rfl
  | cons p ps ih =>
      obtain ⟨hp, hps⟩ := List.forall_mem_cons.1 h
      have hrest := ih hps (add r p.1 p.2)
      rw [addPairs] at hrest ⊢
      rw [List.map_cons, List.foldlM_cons, readPair_of_isToken hp]
      exact hrest

theorem foldl_withHeader_eq (r : Request) (headers : List (String × String)) :
    headers.foldl (fun r p => r.withHeader p.1 p.2) r =
      { r with headers := r.headers.insertAll (headers.map fun p => (p.1.toLower, p.2)) } := by
  induction headers generalizing r with
  | nil => rfl
  | cons p ps ih =>
      rw [List.foldl_cons, ih]
      rfl

def simulated (method path : String) (headers : List (String × String)) : Request :=
  Request.detectDevice { Request.make method path with
    headers := .ofList (headers.map fun p => (p.1.toLower, p.2)) }

theorem Simulation.request_ofHeaders (method path : String) {headers : List (String × String)}
    (h : ∀ p ∈ headers, isToken p.1 = true) :
    (Simulation.ofHeaders method path headers).request = .ok (simulated method path headers) := by
  have hpairs : addPairs Request.withHeader (Request.make method path)
      (headers.map fun p => p.1 ++ "=" ++ p.2) = .ok { Request.make method path with
        headers := .ofList (headers.map fun p => (p.1.toLower, p.2)) } :=
    (addPairs_eq_ok h (Request.make method path)).trans
      (congrArg Except.ok (foldl_withHeader_eq (Request.make method path) headers))
  simp only [ofHeaders, Simulation.request, hpairs]
  exact congrArg Except.ok (Request.detectDevice_of_device_eq_none rfl).symm

/-- The request that is sent with the same headers. -/
def sent (method path : String) (headers : List (String × String)) : Request :=
  ((Request.make method path).addHeaders (encoded headers)).detectDevice

theorem ofHttp_eq_sent (method path : String) (headers : List (String × String)) :
    Request.ofHttp ⟨method, ⟨path, none⟩, (encoded headers).map fun p => (p.1.toLower, p.2)⟩ =
      sent method path headers :=
  Request.ofHttp_eq method ⟨path, none⟩ (encoded headers)

/-! ### Where they agree -/

section
variable (method path : String) {headers : List (String × String)}

theorem get?_headers_simulated (name : String) :
    (simulated method path headers).headers.get? name =
      (((headers.map fun p => (p.1.toLower, p.2)).filter fun p => p.1 = name).map
        Prod.snd).getLast? := by
  refine (NameTable.get?_insertAll .empty _ name).trans ?_
  exact Option.or_none

theorem get?_headers_sent (name : String) :
    (sent method path headers).headers.get? name =
      joined? (readableValues (encoded headers) name) :=
  Request.get?_headers_addHeaders (encoded headers) rfl name

theorem cookies_sent :
    (sent method path headers).cookies =
      .ofList ((readableValues (encoded headers) "cookie").flatMap Cookie.pairs) :=
  Request.cookies_addHeaders (encoded headers) rfl

theorem sent_eq :
    sent method path headers = Request.detectDevice { Request.make method path with
      headers := (sent method path headers).headers
      cookies := (sent method path headers).cookies } := by
  rw [sent, Request.addHeaders_eq]
  rfl

variable (hv : ∀ p ∈ headers, isVisibleText p.2 = true)
include hv

theorem nodup_iff_length_readableValues :
    (headers.map fun p => p.1.toLower).Nodup ↔
      ∀ name, (readableValues (encoded headers) name).length ≤ 1 := by
  have hnames : (headers.map fun p => p.1.toLower) =
      (headers.map fun p => (p.1.toLower, p.2)).map Prod.fst := by
    simp [Function.comp_def]
  rw [hnames, nodup_map_fst_iff]
  simp only [readableValues_encoded hv]

/-- If no name is given twice, only cookies can differ. -/
theorem simulated_eq_of_nodup (h : (headers.map fun p => p.1.toLower).Nodup) :
    simulated method path headers = { sent method path headers with cookies := .empty } := by
  have hheaders : (simulated method path headers).headers =
      (sent method path headers).headers := by
    refine NameTable.ext_get? fun name => ?_
    rw [get?_headers_simulated, get?_headers_sent, ← readableValues_encoded hv]
    exact (joined?_of_length_le_one ((nodup_iff_length_readableValues hv).1 h name)).symm
  rw [sent_eq, ← hheaders]
  rfl

/-- A name that is given twice has different values. -/
theorem nodup_of_header?_eq
    (h : ∀ name, ((simulated method path headers).header? name).getD "" =
      ((sent method path headers).header? name).getD "") :
    (headers.map fun p => p.1.toLower).Nodup := by
  refine (nodup_iff_length_readableValues hv).2 fun name => ?_
  by_contra hlong
  -- a name that has values is one in lowercase
  obtain ⟨v, hmem⟩ := List.exists_mem_of_length_pos
    (by omega : 0 < (readableValues (encoded headers) name).length)
  obtain ⟨p, hp, -⟩ := List.mem_filterMap.1 hmem
  have hname : p.1.toLower = name := of_decide_eq_true (List.mem_filter.1 hp).2
  have hlower : name.toLower = name := by rw [← hname, toLower_toLower]
  have hvalues := h name
  rw [Request.header?, Request.header?, hlower, get?_headers_simulated, get?_headers_sent,
    ← readableValues_encoded hv] at hvalues
  exact hlong (length_le_one_of_joined? hvalues.symm)

theorem cookies_sent_eq_empty_iff :
    (sent method path headers).cookies = .empty ↔
      ∀ p ∈ headers, p.1.toLower = "cookie" → Cookie.pairs p.2 = [] := by
  rw [cookies_sent, NameTable.ofList_eq_empty_iff, List.flatMap_eq_nil_iff,
    readableValues_encoded hv]
  simp only [List.mem_map, List.mem_filter, decide_eq_true_eq]
  constructor
  · intro h p hp hname
    exact h p.2 ⟨(p.1.toLower, p.2), ⟨⟨p, hp, rfl⟩, hname⟩, rfl⟩
  · rintro h _ ⟨_, ⟨⟨p, hp, rfl⟩, hname⟩, rfl⟩
    exact h p hp hname

/-- The same headers, cookies and device. -/
theorem agree_iff :
    ((simulated method path headers).headers = (sent method path headers).headers ∧
      (simulated method path headers).cookies = (sent method path headers).cookies ∧
      (simulated method path headers).device = (sent method path headers).device) ↔
    (headers.map fun p => p.1.toLower).Nodup ∧
      ∀ p ∈ headers, p.1.toLower = "cookie" → Cookie.pairs p.2 = [] := by
  constructor
  · rintro ⟨hheaders, hcookies, -⟩
    refine ⟨nodup_of_header?_eq method path hv fun name => ?_,
      (cookies_sent_eq_empty_iff method path hv).1 hcookies.symm⟩
    rw [Request.header?, Request.header?, hheaders]
  · rintro ⟨hnodup, hpairs⟩
    have hcookies := (cookies_sent_eq_empty_iff method path hv).2 hpairs
    rw [simulated_eq_of_nodup method path hv hnodup]
    exact ⟨rfl, hcookies.symm, rfl⟩

/-- The same values of all fields. -/
theorem resolve_eq_iff :
    (∀ f : Field, f.resolve (simulated method path headers) =
      f.resolve (sent method path headers)) ↔
    (headers.map fun p => p.1.toLower).Nodup ∧
      ∀ name value, (sent method path headers).cookies.get? name = some value → value = "" := by
  constructor
  · intro h
    refine ⟨nodup_of_header?_eq method path hv fun name => h (.header name), ?_⟩
    intro name value hvalue
    have hcookie : "" = ((sent method path headers).cookies.get? name).getD "" := h (.cookie name)
    rw [hvalue] at hcookie
    exact hcookie.symm
  · rintro ⟨hnodup, hempty⟩ f
    rw [simulated_eq_of_nodup method path hv hnodup]
    cases f with
    | cookie name =>
        change "" = ((sent method path headers).cookies.get? name).getD ""
        cases hvalue : (sent method path headers).cookies.get? name with
        | none => rfl
        | some value => rw [hempty name value hvalue]; rfl
    | _ => rfl

end

/-- With valid headers whose values are visible, the simulated request and the one that is sent have
the same headers, cookies and device exactly if no name is given twice, in any spelling, and no
cookie header holds a pair; every rule derives the same key from both exactly if no name is given
twice and no cookie has a value. -/
theorem Simulation.request_agrees_iff {method path uri : String} {headers : List (String × String)}
    (hm : isToken method = true) (ht : Target.ofText? uri = some ⟨path, none⟩)
    (hh : ∀ p ∈ encoded headers, IsHeader p)
    (hv : ∀ p ∈ headers, isVisibleText p.2 = true) :
    ∃ s h, (Simulation.ofHeaders method path headers).request = .ok s ∧
      HttpRequest.make method uri headers = .ok h ∧
      ((s.headers = (Request.ofHttp h).headers ∧ s.cookies = (Request.ofHttp h).cookies ∧
          s.device = (Request.ofHttp h).device) ↔
        (headers.map fun p => p.1.toLower).Nodup ∧
          ∀ p ∈ headers, p.1.toLower = "cookie" → Cookie.pairs p.2 = []) ∧
      ((∀ rule : Rule, (rule.derive s).key = (rule.derive (Request.ofHttp h)).key) ↔
        (headers.map fun p => p.1.toLower).Nodup ∧
          ∀ name value, (Request.ofHttp h).cookies.get? name = some value → value = "") := by
  have htoken : ∀ p ∈ headers, isToken p.1 = true := fun p hp =>
    (hh _ (List.mem_map_of_mem hp)).isToken
  refine ⟨_, _, request_ofHeaders method path htoken, ofParts_eq_ok hm ht hh, ?_⟩
  rw [ofHttp_eq_sent, Request.forall_key_eq_iff]
  exact ⟨agree_iff method path hv, resolve_eq_iff method path hv⟩

/-- A cookie header that holds no pair, and one with a cookie that has no value. -/
theorem Simulation.request_agrees_iff_at_cookie_headers :
    isToken "PUT" = true ∧ Target.ofText? "/p#top" = some ⟨"/p", none⟩ ∧
    (∀ p ∈ encoded [("Accept", "de"), ("COOKIE", "a; =b")], IsHeader p) ∧
    (∀ p ∈ [("Accept", "de"), ("COOKIE", "a; =b")], isVisibleText p.2 = true) ∧
    (∃ s h, (ofHeaders "PUT" "/p" [("Accept", "de"), ("COOKIE", "a; =b")]).request = .ok s ∧
      HttpRequest.make "PUT" "/p#top" [("Accept", "de"), ("COOKIE", "a; =b")] = .ok h ∧
      s.headers = (Request.ofHttp h).headers ∧ s.cookies = (Request.ofHttp h).cookies ∧
      s.device = (Request.ofHttp h).device) ∧
    ∃ s h, (ofHeaders "PUT" "/p" [("Cookie", "a=")]).request = .ok s ∧
      HttpRequest.make "PUT" "/p#top" [("Cookie", "a=")] = .ok h ∧
      ∀ rule : Rule, (rule.derive s).key = (rule.derive (Request.ofHttp h)).key := by
  have hm : isToken "PUT" = true := by decide +kernel
  have ht : Target.ofText? "/p#top" = some ⟨"/p", none⟩ := rfl
  have hh : ∀ p ∈ encoded [("Accept", "de"), ("COOKIE", "a; =b")], IsHeader p := by
    decide +kernel
  have hv : ∀ p ∈ [("Accept", "de"), ("COOKIE", "a; =b")], isVisibleText p.2 = true := by
    decide +kernel
  refine ⟨hm, ht, hh, hv, ?_, ?_⟩
  · obtain ⟨s, h, hs, hmake, hagree, -⟩ := request_agrees_iff hm ht hh hv
    exact ⟨s, h, hs, hmake, hagree.2 (by decide +kernel)⟩
  · have hh' : ∀ p ∈ encoded [("Cookie", "a=")], IsHeader p := by decide +kernel
    have hv' : ∀ p ∈ [("Cookie", "a=")], isVisibleText p.2 = true := by decide +kernel
    obtain ⟨s, h, hs, hmake, -, hkeys⟩ := request_agrees_iff hm ht hh' hv'
    refine ⟨s, h, hs, hmake, hkeys.2 ⟨by decide +kernel, fun name value hvalue => ?_⟩⟩
    have hentries : (Request.ofHttp ⟨"PUT", ⟨"/p", none⟩,
        (encoded [("Cookie", "a=")]).map fun p => (p.1.toLower, p.2)⟩).cookies.entries =
          [("a", "")] := by
      decide +kernel
    cases hmake.symm.trans (ofParts_eq_ok hm ht hh')
    have hmem := (NameTable.mem_entries_iff _).2 hvalue
    rw [hentries, List.mem_singleton] at hmem
    exact (Prod.mk.inj hmem).2

/-- Of two values of a name the simulated request keeps the last one, while both are sent. -/
theorem Simulation.request_differs_at_repeated_name :
    ∃ s h, (ofHeaders "GET" "/" [("Accept", "text/html"), ("Accept", "*/*")]).request = .ok s ∧
      HttpRequest.make "GET" "/" [("Accept", "text/html"), ("Accept", "*/*")] = .ok h ∧
      s.header? "accept" = some "*/*" ∧
      (Request.ofHttp h).header? "accept" = some "text/html, */*" ∧
      ((Request.showing (.header "accept")).derive s).key = "*/*" ∧
      ((Request.showing (.header "accept")).derive (Request.ofHttp h)).key = "text/html, */*" := by
  have hlower : "accept".toLower = "accept" := by decide +kernel
  have hsimulated : (simulated "GET" "/" [("Accept", "text/html"), ("Accept", "*/*")]).header?
      "accept" = some "*/*" := by
    rw [Request.header?, hlower, get?_headers_simulated]
    decide +kernel
  have hsent : (sent "GET" "/" [("Accept", "text/html"), ("Accept", "*/*")]).header? "accept" =
      some "text/html, */*" := by
    rw [Request.header?, hlower, get?_headers_sent]
    decide +kernel
  refine ⟨_, _, request_ofHeaders "GET" "/" (by decide +kernel),
    ofParts_eq_ok (by decide +kernel) rfl (by decide +kernel), ?_⟩
  rw [ofHttp_eq_sent, Request.key_derive_showing, Request.key_derive_showing]
  exact ⟨hsimulated, hsent, congrArg (fun v : Option String => v.getD "") hsimulated,
    congrArg (fun v : Option String => v.getD "") hsent⟩

end CommandLine

end CacheKeys
