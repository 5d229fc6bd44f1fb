import Mathlib.Data.Nat.Digits.Defs
import Sleuthgraph.Text

/-!
# The address of a client (`auth/rate_limit.py`)

`get_client_ip` is the key of the rate limits by address. Behind a proxy it trusts, it reads
`CF-Connecting-IP`, and else walks `X-Forwarded-For` from the right. A header can come in several
field lines, and `Headers.get` answers with the first one.
-/

namespace Sleuthgraph

/-! ## `ipaddress.ip_address` -/

/-- `_parse_octet` -/
def ipv4Octet (s : List Char) : Bool :=
  runOf Char.isDigit s && decide (s.length ≤ 3) && (s == ['0'] || s.head? != some '0')
    && decide (Nat.ofDigitChars 10 s 0 ≤ 255)

/-- `IPv4Address(s)` does not raise. -/
def ipv4Address (s : List Char) : Bool :=
  (splitAt '.' s).length == 4 && (splitAt '.' s).all ipv4Octet

/-- `_parse_hextet` -/
def ipv6Hextet (s : List Char) : Bool := runOf isHexDigit s && decide (s.length ≤ 4)

/-- `_split_scope_id`: the address before the scope. -/
def withoutScope (s : List Char) : Option (List Char) :=
  match splitAt '%' s with
  | [address] => some address
  | [address, scope] => if scope = [] then none else some address
  | _ => none

/-- The groups of one side of `::`. The text may begin or end with it. -/
def ipv6Side (groups : List (List Char)) (outer : Option (List Char)) : Option ℕ :=
  if outer = some [] then if groups.length = 1 then some 0 else none
  else if groups.all ipv6Hextet then some groups.length else none

/-- The groups between the colons, with those of an embedded IPv4 address. -/
def ipv6Groups (parts : List (List Char)) : Bool :=
  let inner := parts.tail.dropLast
  if 9 < parts.length then false
  else match inner.findIdx? List.isEmpty with
    | none => parts.length == 8 && parts.all ipv6Hextet
    | some i =>
      let hi := parts.take (i + 1)
      let lo := parts.drop (i + 2)
      if (inner.drop (i + 1)).any List.isEmpty then false
      else match ipv6Side hi hi.head?, ipv6Side lo lo.getLast? with
        | some m, some n => decide (m + n ≤ 7)
        | _, _ => false

/-- `IPv6Address(s)` does not raise. -/
def ipv6Address (s : List Char) : Bool :=
  !s.contains '/' && match withoutScope s with
    | none => false
    | some address =>
      let parts := splitAt ':' address
      let last := parts.getLastD []
      decide (3 ≤ parts.length) &&
        if last.contains '.' then ipv4Address last && ipv6Groups (parts.dropLast ++ [['0'], ['0']])
        else ipv6Groups parts

/-- `ipaddress.ip_address(s)` does not raise. -/
def ipAddress (s : List Char) : Bool := ipv4Address s || ipv6Address s

/-! ## Requests -/

/-- The header field lines of a request, with their names in lower case, and the address of the
peer. -/
structure ClientRequest where
  headers : List (String × List Char)
  client : Option (List Char)

namespace ClientRequest

variable (req : ClientRequest)

/-- The field lines of a name. -/
def lines (name : String) : List (List Char) :=
  (req.headers.filter fun (key, _) => key = name).map fun (_, value) => value

/-- `request.headers.get(name)` -/
def header (name : String) : Option (List Char) := (req.lines name).head?

/-- `request.client.host`, or the literal that stands for no peer. -/
def host : List Char := req.client.getD "unknown".toList

end ClientRequest

/-- `_valid_ip` -/
def validIp : Option (List Char) → Option (List Char)
  | none => none
  | some value =>
    let candidate := strip value
    if value = [] then none
    else if candidate = [] then none
    else if ipAddress candidate then some candidate else none

/-- The walk over the entries of `X-Forwarded-For`, from the right. -/
def rightmostIp (xff : List Char) : Option (List Char) :=
  (splitAt ',' xff).reverse.findSome? fun raw => validIp (some raw)

/-- `get_client_ip` -/
def getClientIp (trustCloudflareEdge : Bool) (req : ClientRequest) : List Char :=
  if trustCloudflareEdge then
    match validIp (req.header "cf-connecting-ip") with
    | some cfIp => cfIp
    | none => match req.header "x-forwarded-for" with
      | some xff => if xff = [] then req.host else (rightmostIp xff).getD req.host
      | none => req.host
  else req.host

/-! ## What the proxy has written -/

/-- No valid `CF-Connecting-IP`, and the last entry of the last line of `X-Forwarded-For` is the
address `r`, which the adjacent proxy has written. -/
structure Appended (req : ClientRequest) (r : List Char) : Prop where
  no_cf : validIp (req.header "cf-connecting-ip") = none
  last : ∃ line, (req.lines "x-forwarded-for").getLast? = some line ∧
    (splitAt ',' line).getLast? = some r
  valid : ipAddress (strip r) = true

/-- The rightmost valid entry of the line is `ip`. -/
def RightmostValid (line ip : List Char) : Prop :=
  ∃ front entry back, splitAt ',' line = front ++ entry :: back ∧
    validIp (some entry) = some ip ∧ ∀ x ∈ back, validIp (some x) = none

/-- The proxy's line is the only one, or the first line happens to lead to the same address: by
its rightmost valid entry, or by having none when the peer has that address. -/
def FirstLineAgrees (req : ClientRequest) (r : List Char) : Prop :=
  ∃ line rest, req.lines "x-forwarded-for" = line :: rest ∧
    (rest = [] ∨ RightmostValid line (strip r) ∨
      (∀ x ∈ splitAt ',' line, validIp (some x) = none) ∧ req.host = strip r)

section Walk

variable {req : ClientRequest} {line ip r : List Char}

lemma rightmostIp_eq_some_iff : rightmostIp line = some ip ↔ RightmostValid line ip := by
  rw [rightmostIp, List.findSome?_eq_some_iff]
  constructor
  · intro ⟨before, entry, after, hsplit, hentry, hbefore⟩
    refine ⟨after.reverse, entry, before.reverse, ?_, hentry, fun x hx => ?_⟩
    · have hrev := congrArg List.reverse hsplit
      rw [List.reverse_reverse, List.reverse_append, List.reverse_cons, List.append_assoc,
        List.singleton_append] at hrev
      exact hrev
    · exact hbefore x (List.mem_reverse.mp hx)
  · intro ⟨front, entry, back, hsplit, hentry, hback⟩
    refine ⟨back.reverse, entry, front.reverse, ?_, hentry, fun x hx => ?_⟩
    · rw [hsplit, List.reverse_append, List.reverse_cons, List.append_assoc,
        List.singleton_append]
    · exact hback x (List.mem_reverse.mp hx)

lemma rightmostIp_eq_none_iff :
    rightmostIp line = none ↔ ∀ x ∈ splitAt ',' line, validIp (some x) = none := by
  rw [rightmostIp, List.findSome?_eq_none_iff]
  exact forall_congr' fun x => imp_congr_left List.mem_reverse

/-- A valid address is no empty text. -/
lemma validIp_of_ipAddress (h : ipAddress (strip r) = true) :
    validIp (some r) = some (strip r) := by
  have hstrip : strip r ≠ [] := by
    intro hnil
    rw [hnil] at h
    exact absurd h (by decide)
  have hr : r ≠ [] := by
    rintro rfl
    exact hstrip rfl
  show (if r = [] then none else if strip r = [] then none
    else if ipAddress (strip r) then some (strip r) else none) = some (strip r)
  rw [if_neg hr, if_neg hstrip, if_pos h]

/-- A line that ends in a valid address leads to it. -/
lemma rightmostValid_of_getLast? (hlast : (splitAt ',' line).getLast? = some r)
    (h : ipAddress (strip r) = true) : RightmostValid line (strip r) := by
  obtain ⟨front, hsplit⟩ := List.getLast?_eq_some_iff.mp hlast
  exact ⟨front, r, [], hsplit, validIp_of_ipAddress h, fun _ hx => nomatch hx⟩

/-- The address is that of the first line. -/
lemma getClientIp_eq {rest : List (List Char)}
    (hcf : validIp (req.header "cf-connecting-ip") = none)
    (hlines : req.lines "x-forwarded-for" = line :: rest) :
    getClientIp true req = (rightmostIp line).getD req.host := by
  have hheader : req.header "x-forwarded-for" = some line := by
    rw [ClientRequest.header, hlines, List.head?_cons]
  rw [getClientIp, if_pos rfl, hcf, hheader]
  show (if line = [] then req.host else (rightmostIp line).getD req.host) = _
  by_cases hline : line = []
  · -- an empty line has one entry, which is empty
    rw [if_pos hline, hline]
    rfl
  · rw [if_neg hline]

end Walk

/-- The walk over the first line ends at the proxy's address just when that line agrees. -/
lemma getClientIp_eq_iff {req : ClientRequest} {r : List Char} (h : Appended req r) :
    getClientIp true req = strip r ↔ FirstLineAgrees req r := by
  obtain ⟨last, hlast, hentry⟩ := h.last
  cases hlines : req.lines "x-forwarded-for" with
  | nil =>
    rw [hlines] at hlast
    cases hlast
  | cons line rest =>
    have hip := getClientIp_eq h.no_cf hlines
    constructor
    · intro heq
      refine ⟨line, rest, hlines, Or.inr ?_⟩
      rw [hip] at heq
      cases hfound : rightmostIp line with
      | some ip =>
        rw [hfound, Option.getD_some] at heq
        exact Or.inl (rightmostIp_eq_some_iff.mp (heq ▸ hfound))
      | none =>
        rw [hfound, Option.getD_none] at heq
        exact Or.inr ⟨rightmostIp_eq_none_iff.mp hfound, heq⟩
    · intro ⟨line', rest', hlines', hagrees⟩
      obtain ⟨rfl, rfl⟩ := List.cons.inj (hlines.symm.trans hlines')
      rw [hip]
      rcases hagrees with hrest | hvalid | ⟨hnone, hhost⟩
      · -- the only line is the proxy's
        rw [hlines, hrest, List.getLast?_singleton, Option.some.injEq] at hlast
        subst hlast
        have hvalid := rightmostValid_of_getLast? hentry h.valid
        rw [rightmostIp_eq_some_iff.mpr hvalid, Option.getD_some]
      · rw [rightmostIp_eq_some_iff.mpr hvalid, Option.getD_some]
      · rw [rightmostIp_eq_none_iff.mpr hnone, Option.getD_none, hhost]

/-- **The address of the proxy's entry.** With the edge trusted, `get_client_ip` answers the last
entry of the last line just when that line is the only one or the first line happens to agree; two
requests for which it does get the same bucket. -/
theorem forwarded_for_iff (req : ClientRequest) (r : List Char) (h : Appended req r) :
    (getClientIp true req = strip r ↔ FirstLineAgrees req r) ∧
    ∀ req', Appended req' r → FirstLineAgrees req r → FirstLineAgrees req' r →
      getClientIp true req = getClientIp true req' := by
  refine ⟨getClientIp_eq_iff h, fun req' h' hagrees hagrees' => ?_⟩
  rw [(getClientIp_eq_iff h).mpr hagrees, (getClientIp_eq_iff h').mpr hagrees']

/-! ### Two requests -/

/-- A client that claims to be somebody, behind a proxy that appends its peer to the line. -/
def oneLineRequest (claimed : String) : ClientRequest :=
  ⟨[("x-forwarded-for", claimed.toList ++ ",9.9.9.9".toList)], some "10.0.0.1".toList⟩

/-- A client that claims to be `1.2.3.4`, behind a proxy that appends a line of its own. -/
def twoLineRequest : ClientRequest :=
  ⟨[("x-forwarded-for", "1.2.3.4".toList), ("x-forwarded-for", "9.9.9.9".toList)],
    some "10.0.0.1".toList⟩

theorem forwarded_for_iff_oneLine :
    (getClientIp true (oneLineRequest "1.2.3.4") = "9.9.9.9".toList ↔
      FirstLineAgrees (oneLineRequest "1.2.3.4") "9.9.9.9".toList) ∧
    getClientIp true (oneLineRequest "1.2.3.4") = getClientIp true (oneLineRequest "a,::1") := by
  have happended : Appended (oneLineRequest "1.2.3.4") "9.9.9.9".toList :=
    ⟨by decide, ⟨"1.2.3.4,9.9.9.9".toList, by decide, by decide⟩, by decide⟩
  have happended' : Appended (oneLineRequest "a,::1") "9.9.9.9".toList :=
    ⟨by decide, ⟨"a,::1,9.9.9.9".toList, by decide, by decide⟩, by decide⟩
  have hagrees : FirstLineAgrees (oneLineRequest "1.2.3.4") "9.9.9.9".toList :=
    ⟨"1.2.3.4,9.9.9.9".toList, [], by decide, Or.inl rfl⟩
  have hagrees' : FirstLineAgrees (oneLineRequest "a,::1") "9.9.9.9".toList :=
    ⟨"a,::1,9.9.9.9".toList, [], by decide, Or.inl rfl⟩
  have hiff := forwarded_for_iff (oneLineRequest "1.2.3.4") "9.9.9.9".toList happended
  exact ⟨hiff.1, hiff.2 _ happended' hagrees hagrees'⟩

/-- The client chooses its bucket. -/
theorem forwarded_for_spoofed :
    ¬ ∀ (req : ClientRequest) (r : List Char), Appended req r →
      getClientIp true req = strip r := by
  intro h
  have happended : Appended twoLineRequest "9.9.9.9".toList :=
    ⟨by decide, ⟨"9.9.9.9".toList, by decide, by decide⟩, by decide⟩
  exact absurd (h twoLineRequest _ happended) (by decide)

end Sleuthgraph
