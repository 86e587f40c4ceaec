import A3sBox.Compat.Routing.Parser
import A3sBox.Lib.Net

/-
  Direct hostnames: the host `<port>-<sandbox>.<domain>` of a route (`directHostname`,
  the `format!("{port}-{id}.{domain}")` the gateway's clients write), and what
  `parse_host` makes of it.

  Model. The parser is `SandboxRouteParser.parseHost` of `Compat.Routing.Parser`, over
  any `http` crate that takes a nonempty text of lowercase letters, digits, `-`, `.` and
  `+` as an authority whose host is that text (`PlainHostsAccepted`), as the crate's
  `Authority::parse` does for a text without a port; a direct hostname is such a text.

  Proved:
  * `parseHost_direct`: a host `<text>-<sandbox>.<domain>` whose port text is digits and
    `+` and parses as the port, without route headers, is the direct route of that
    sandbox and port;
  * `signed_port_reaches_direct_route`: every sandbox and port has its direct hostname,
    and `+<port>-<sandbox>.<domain>` reaches the same route, although its host is not
    that hostname: `parse_port` rejects a leading `0` but lets `u16::from_str` take a
    leading `+`.
-/

namespace A3sBox.Compat

open A3sBox.Lib A3sBox.Lib.Http A3sBox.Lib.Str A3sBox.Lib.Net

/-- The direct hostname of a sandbox and port, `<port>-<sandbox>.<domain>`. -/
def directHostname (domain : SandboxDomain) (sandboxId : SandboxId) (port : NonZeroU16) :
    List Char :=
  (Nat.toDigits 10 port.get ++ '-' :: sandboxId.val.toList) ++ '.' :: domain.val.toList

/-- A character of a plain host text: a lowercase letter, a digit, `-`, `.` or `+`. -/
def isPlainHostChar (c : Char) : Bool :=
  c.isLower || c.isDigit || c == '-' || c == '.' || c == '+'

section PlainHost

variable {c : Char}

theorem isPlainHostChar_cases (h : isPlainHostChar c) :
    c.isLower ∨ c.isDigit ∨ c = '-' ∨ c = '.' ∨ c = '+' := by
  simp only [isPlainHostChar, Bool.or_eq_true, beq_iff_eq] at h
  tauto

theorem isUpper_of_isLower (h : c.isLower = true) : c.isUpper = false := by
  simp only [Char.isLower, Char.isUpper, Bool.and_eq_true, decide_eq_true_eq,
    decide_eq_false_iff_not] at h ⊢
  intro hA
  exact absurd (UInt32.le_trans h.1 hA.2) (by decide)

/-- A plain text is lowercase already. -/
theorem asciiLower_of_plain {l : List Char} (hl : ∀ c ∈ l, isPlainHostChar c) :
    asciiLower l = l := by
  apply asciiLower_eq_self
  intro c hc
  rcases isPlainHostChar_cases (hl c hc) with hlower | hdigit | rfl | rfl | rfl
  · exact isUpper_of_isLower hlower
  · exact isUpper_of_isDigit hdigit
  all_goals decide

end PlainHost

/-- What the parser needs of the `http` crate for a direct hostname: a nonempty text of
    plain characters is an authority, and its own host. -/
def PlainHostsAccepted (http : Crate) : Prop :=
  ∀ l : List Char, l ≠ [] → (∀ c ∈ l, isPlainHostChar c) →
    ∃ auth, http.authorityFromStr (String.ofList l) = some auth ∧ http.authorityHost auth = l

/-- The crate of the examples takes plain hosts: they have no port colon. -/
theorem verbatim_plainHostsAccepted : PlainHostsAccepted Crate.verbatim := by
  intro l _ hl
  refine ⟨⟨String.ofList l⟩, rfl, ?_⟩
  show (String.ofList l).toList.takeWhile (· ≠ ':') = l
  rw [String.toList_ofList, List.takeWhile_eq_self_iff]
  intro c hc
  have hcolon : c ≠ ':' := by
    rintro rfl
    exact absurd (hl ':' hc) (by decide)
  simpa using hcolon

/-- The characters of a sandbox ID are plain, and none is a `.`. -/
theorem sandboxId_plain (sandboxId : SandboxId) :
    ∀ c ∈ sandboxId.val.toList, isPlainHostChar c ∧ c ≠ '.' := by
  have hvalid := sandboxId.valid
  simp only [isValidSandboxId, Bool.and_eq_true, List.all_eq_true] at hvalid
  intro c hc
  have hchar := hvalid.2 c hc
  simp only [isSandboxIdAlphanumeric, Bool.or_eq_true, beq_iff_eq] at hchar
  constructor
  · simp only [isPlainHostChar, Bool.or_eq_true, beq_iff_eq]
    tauto
  · rintro rfl
    rcases hchar with (h | h) | h <;> exact absurd h (by decide)

/-- The characters of a valid domain are plain: its labels' and the dots between them. -/
theorem domain_plain (domain : SandboxDomain) : ∀ c ∈ domain.val.toList, isPlainHostChar c := by
  have hvalid := domain.valid
  simp only [isValidDomain, Bool.and_eq_true, List.all_eq_true] at hvalid
  intro c hc
  by_cases hdot : c = '.'
  · subst hdot
    decide
  obtain ⟨label, hlabel, hmem⟩ := mem_splitOn_of_mem hc hdot
  have hlabelValid := hvalid.2 label hlabel
  simp only [validDnsLabel, Bool.and_eq_true, List.all_eq_true] at hlabelValid
  have hchar := hlabelValid.2 c hmem
  simp only [isDnsAlphanumeric, Bool.or_eq_true, beq_iff_eq] at hchar
  simp only [isPlainHostChar, Bool.or_eq_true, beq_iff_eq]
  tauto

/-- `SandboxId::new` takes back the text of a sandbox ID. -/
theorem sandboxId_new_val (sandboxId : SandboxId) :
    SandboxId.new (String.ofList sandboxId.val.toList) = .ok sandboxId := by
  rw [String.ofList_toList, SandboxId.new, dif_pos sandboxId.valid]

/-- `parse_port` reads the decimal text of a port, with or without a leading `+`. -/
theorem parsePort_toDigits (port : NonZeroU16) :
    parsePort (Nat.toDigits 10 port.get) = some port ∧
      parsePort ('+' :: Nat.toDigits 10 port.get) = some port := by
  have hhead := toDigits_head_ne_zero port.pos
  have hu16 := parseU16_toDigits port.lt
  constructor
  · rw [parsePort, if_neg hhead, hu16]
    simp [port.pos]
  · rw [parsePort, if_neg (by simp), parseU16_plus_toDigits port.lt, hu16]
    simp [port.pos]

/-- A host `<label>.<domain>` with a nonempty label without dots has that label. -/
theorem directLabel_append {label : List Char} (hne : label ≠ []) (hdot : '.' ∉ label)
    (domain : SandboxDomain) : directLabel domain (label ++ '.' :: domain.val.toList) = some label := by
  rw [directLabel, stripSuffix_eq_some.mpr rfl]
  simp [hne, hdot]

theorem sharedHostname_head (domain : SandboxDomain) : domain.sharedHostname.head? = some 's' := by
  have hne : "sandbox.".toList ≠ [] := by decide
  have hhead : ("sandbox.".toList).head? = some 's' := by decide
  -- unfolding by `show`: a rewrite with the definition's equation stalls on the literal
  show ("sandbox.".toList ++ domain.val.toList).head? = some 's'
  rw [List.head?_append_of_ne_nil _ hne]
  exact hhead

/-- A host `<label>.<domain>` whose label does not start with `s` is not `sandbox.<domain>`. -/
theorem append_ne_sharedHostname {label : List Char} (hne : label ≠ [])
    (hhead : label.head? ≠ some 's') (domain : SandboxDomain) :
    label ++ '.' :: domain.val.toList ≠ domain.sharedHostname := by
  intro heq
  have hheads := congrArg List.head? heq
  rw [List.head?_append_of_ne_nil _ hne, sharedHostname_head] at hheads
  exact hhead hheads

/-- A label `<port>-<sandbox>` whose port text has no hyphen and parses as the port. -/
theorem parseDirectLabel_append {portText : List Char} {port : NonZeroU16}
    (hport : parsePort portText = some port) (hhyphen : '-' ∉ portText) (sandboxId : SandboxId) :
    parseDirectLabel (portText ++ '-' :: sandboxId.val.toList) = .ok (port, sandboxId) := by
  have hsplit : splitOnce '-' (portText ++ '-' :: sandboxId.val.toList) =
      some (portText, sandboxId.val.toList) := splitOnce_eq_some.mpr ⟨hhyphen, rfl⟩
  rw [parseDirectLabel, hsplit, okOr_some, ok_bind]
  dsimp only
  rw [hport, okOr_some, ok_bind, sandboxId_new_val]
  rfl

/-- The characters of a port text of digits and `+` are plain and none is `-`, `.` or
    `s`. -/
theorem portText_plain {portText : List Char} (hchars : ∀ c ∈ portText, c.isDigit ∨ c = '+') :
    (∀ c ∈ portText, isPlainHostChar c) ∧ '-' ∉ portText ∧ '.' ∉ portText ∧ 's' ∉ portText := by
  have hnot : ∀ d, d.isDigit = false → d ≠ '+' → d ∉ portText := fun d hd hplus hmem => by
    rcases hchars d hmem with h | h
    · rw [hd] at h
      cases h
    · exact hplus h
  refine ⟨?_, hnot '-' (by decide) (by decide), hnot '.' (by decide) (by decide),
    hnot 's' (by decide) (by decide)⟩
  intro c hc
  rcases hchars c hc with h | rfl
  · simp [isPlainHostChar, h]
  · decide

/-- A label `<port>-<sandbox>` of such a port text is plain. -/
theorem directLabel_plain {portText : List Char} (hchars : ∀ c ∈ portText, c.isDigit ∨ c = '+')
    (sandboxId : SandboxId) : ∀ c ∈ portText ++ '-' :: sandboxId.val.toList, isPlainHostChar c := by
  intro c hc
  rcases List.mem_append.mp hc with hc | hc
  · exact (portText_plain hchars).1 c hc
  · rcases List.mem_cons.mp hc with rfl | hc
    · decide
    · exact (sandboxId_plain sandboxId c hc).1

/-- A plain label followed by `.<domain>` is plain. -/
theorem append_domain_plain {label : List Char} (hplain : ∀ c ∈ label, isPlainHostChar c)
    (domain : SandboxDomain) : ∀ c ∈ label ++ '.' :: domain.val.toList, isPlainHostChar c := by
  intro c hc
  rcases List.mem_append.mp hc with hc | hc
  · exact hplain c hc
  · rcases List.mem_cons.mp hc with rfl | hc
    · decide
    · exact domain_plain domain c hc

theorem routeHeaders_nil (http : Crate) : routeHeaders http [] = .ok none := rfl

namespace SandboxRouteParser

variable (parser : SandboxRouteParser) {http : Crate} (hcrate : PlainHostsAccepted http)
include hcrate

/-- A plain host `<label>.<domain>` whose label is a direct label of a route reaches that
    route, when no route header is there. -/
theorem parseHost_label {label : List Char} (hplain : ∀ c ∈ label, isPlainHostChar c)
    (hne : label ≠ []) (hhead : label.head? ≠ some 's') (hdot : '.' ∉ label)
    {port : NonZeroU16} {sandboxId : SandboxId} (hdirect : parseDirectLabel label = .ok (port, sandboxId))
    {headers : HeaderMap} (hnone : routeHeaders http headers = .ok none) :
    parser.parseHost http (String.ofList (label ++ '.' :: parser.domain.val.toList)) headers =
      .ok ⟨sandboxId, port, .direct⟩ := by
  have hhost := append_domain_plain hplain parser.domain
  obtain ⟨auth, hauth, hauthHost⟩ := hcrate _ (by simp) hhost
  rw [parseHost, hauth, okOr_some, ok_bind, hauthHost, asciiLower_of_plain hhost, hnone, ok_bind]
  dsimp only
  rw [if_neg (append_ne_sharedHostname hne hhead parser.domain), directLabel_append hne hdot,
    okOr_some, ok_bind, hdirect, ok_bind]
  rfl

/-- A host `<text>-<sandbox>.<domain>` whose port text is digits and `+` and parses as the
    port reaches the direct route of the sandbox and port, when no route header is
    there. -/
theorem parseHost_direct {portText : List Char} {port : NonZeroU16}
    (hport : parsePort portText = some port) (hchars : ∀ c ∈ portText, c.isDigit ∨ c = '+')
    (sandboxId : SandboxId) {headers : HeaderMap} (hnone : routeHeaders http headers = .ok none) :
    parser.parseHost http
        (String.ofList ((portText ++ '-' :: sandboxId.val.toList) ++ '.' :: parser.domain.val.toList))
        headers = .ok ⟨sandboxId, port, .direct⟩ := by
  obtain ⟨-, hhyphen, hportDot, hportS⟩ := portText_plain hchars
  have hne : portText ≠ [] := by
    rintro rfl
    cases hport
  apply parser.parseHost_label hcrate (directLabel_plain hchars sandboxId) (by simp) _ _
    (parseDirectLabel_append hport hhyphen sandboxId) hnone
  · rw [List.head?_append_of_ne_nil _ hne]
    exact fun hhead => hportS (List.mem_of_head? hhead)
  · intro hmem
    rcases List.mem_append.mp hmem with h | h
    · exact hportDot h
    · rcases List.mem_cons.mp h with h | h
      · cases h
      · exact (sandboxId_plain sandboxId '.' h).2 rfl

theorem signed_port_reaches_direct_route (sandboxId : SandboxId) (port : NonZeroU16) :
    parser.parseHost http (String.ofList (directHostname parser.domain sandboxId port)) [] =
        .ok ⟨sandboxId, port, .direct⟩ ∧
      parser.parseHost http (String.ofList ('+' :: directHostname parser.domain sandboxId port)) [] =
        .ok ⟨sandboxId, port, .direct⟩ ∧
      ∀ auth, http.authorityFromStr (String.ofList ('+' :: directHostname parser.domain sandboxId port)) =
        some auth → asciiLower (http.authorityHost auth) ≠ directHostname parser.domain sandboxId port := by
  have hdigits : ∀ c ∈ Nat.toDigits 10 port.get, c.isDigit ∨ c = '+' :=
    fun c hc => .inl (Nat.isDigit_of_mem_toDigits (by decide) (by decide) hc)
  have hsigned : ∀ c ∈ '+' :: Nat.toDigits 10 port.get, c.isDigit ∨ c = '+' := by
    intro c hc
    rcases List.mem_cons.mp hc with rfl | hc
    · exact .inr rfl
    · exact hdigits c hc
  obtain ⟨hunsignedPort, hsignedPort⟩ := parsePort_toDigits port
  refine ⟨parser.parseHost_direct hcrate hunsignedPort hdigits sandboxId (routeHeaders_nil http),
    parser.parseHost_direct hcrate hsignedPort hsigned sandboxId (routeHeaders_nil http), ?_⟩
  -- the signed host is plain, so it is its own host, one `+` longer than the hostname
  intro auth hauth hlower
  have hplain := append_domain_plain (directLabel_plain hsigned sandboxId) parser.domain
  obtain ⟨auth', hauth', hhost⟩ := hcrate _ (by simp) hplain
  have hsame : auth = auth' := Option.some.inj (hauth.symm.trans hauth')
  subst hsame
  rw [hhost, asciiLower_of_plain hplain] at hlower
  exact List.cons_ne_self '+' _ hlower

omit hcrate in
theorem signed_port_sample :
    (⟨⟨"box.example.com", by decide⟩⟩ : SandboxRouteParser).parseHost Crate.verbatim
        "8080-abc.box.example.com" [] =
        .ok ⟨⟨"abc", by decide⟩, ⟨8080, by decide, by decide⟩, .direct⟩ ∧
      (⟨⟨"box.example.com", by decide⟩⟩ : SandboxRouteParser).parseHost Crate.verbatim
        "+8080-abc.box.example.com" [] =
        .ok ⟨⟨"abc", by decide⟩, ⟨8080, by decide, by decide⟩, .direct⟩ := by
  obtain ⟨hcanonical, hsigned, -⟩ := signed_port_reaches_direct_route
    ⟨⟨"box.example.com", by decide⟩⟩ verbatim_plainHostsAccepted ⟨"abc", by decide⟩
    ⟨8080, by decide, by decide⟩
  have hhost : String.ofList (directHostname ⟨"box.example.com", by decide⟩ ⟨"abc", by decide⟩
      ⟨8080, by decide, by decide⟩) = "8080-abc.box.example.com" := by decide
  have hsignedHost : String.ofList ('+' :: directHostname ⟨"box.example.com", by decide⟩
      ⟨"abc", by decide⟩ ⟨8080, by decide, by decide⟩) = "+8080-abc.box.example.com" := by decide
  rw [hhost] at hcanonical
  rw [hsignedHost] at hsigned
  exact ⟨hcanonical, hsigned⟩

end SandboxRouteParser

end A3sBox.Compat
