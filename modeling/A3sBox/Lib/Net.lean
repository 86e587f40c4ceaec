import Mathlib

/-
  The text forms of Rust's integers and IP addresses: `u8::from_str`, the parsers of
  `Ipv4Addr` and `Ipv6Addr` (`core::net::parser`) and the `Display` of an `Ipv4Addr`.

  Model. Text is a `List Char`, and an address is the `Nat` of its bits (`u32::from`,
  `u128::from`). A reader takes what it accepts from the front of its input and returns
  the value and the rest; a failed reader returns `none` and consumes nothing, as
  `read_atomically` restores its input. `parseIpv4` and `parseIpv6` accept a text only
  when the reader consumes all of it; `Ipv4Addr` also refuses a text longer than 15.
  An IPv6 text is groups of up to four hex digits separated by `:`, at most one `::`
  standing for one or more zero groups, and an IPv4 address in the last two groups.

  Proved: `parseUnsigned_toDigits` and `parseIpv4_ipv4Chars`, that the decimal texts
  Rust writes for a `u8` and an `Ipv4Addr` parse back as the value, the reader lemma
  `readNumber_append` under both, and the octet facts `octetDigits`.
-/

namespace A3sBox.Lib.Net

/-! ## Integers -/

/-- The kind of a `ParseIntError`. -/
inductive IntErrorKind where
  | empty
  | invalidDigit
  | posOverflow
deriving DecidableEq

/-- `Display` of a `ParseIntError`. -/
def IntErrorKind.message : IntErrorKind → String
  | .empty => "cannot parse integer from empty string"
  | .invalidDigit => "invalid digit found in string"
  | .posOverflow => "number too large to fit in target type"

/-- The digit loop of `from_str_radix` in base 10, for a type of `bound` values: a digit
    is checked before the overflow it causes. -/
def parseDigits (bound : Nat) : List Char → Nat → Except IntErrorKind Nat
  | [], acc => .ok acc
  | c :: cs, acc =>
    if c.isDigit then
      let next := acc * 10 + (c.toNat - '0'.toNat)
      if next < bound then parseDigits bound cs next else .error .posOverflow
    else .error .invalidDigit

/-- `from_str` of an unsigned integer type of `bound` values (`u8` is 256): an optional
    `+`, then decimal digits. -/
def parseUnsigned (bound : Nat) : List Char → Except IntErrorKind Nat
  | [] => .error .empty
  | ['+'] | ['-'] => .error .invalidDigit
  | '+' :: digits => parseDigits bound digits 0
  | digits => parseDigits bound digits 0

/-! ## The address parser -/

/-- `char::to_digit(radix)`, for a radix up to 36. -/
def toDigit (radix : Nat) (c : Char) : Option Nat :=
  let value :=
    if c.isDigit then some (c.toNat - '0'.toNat)
    else if 'a' ≤ c ∧ c ≤ 'z' then some (c.toNat - 'a'.toNat + 10)
    else if 'A' ≤ c ∧ c ≤ 'Z' then some (c.toNat - 'A'.toNat + 10)
    else none
  value.filter (· < radix)

/-- `Parser::read_number(radix, Some(max_digits), allow_zero_prefix)` for a type of
    `bound` values: one to `max_digits` digits, no leading zero unless allowed or the
    number is one digit, and a value the type holds. -/
def readNumber (radix maxDigits : Nat) (allowZeroPrefix : Bool) (bound : Nat)
    (s : List Char) : Option (Nat × List Char) :=
  let digits := s.takeWhile fun c => (toDigit radix c).isSome
  let value := digits.foldl (fun acc c => acc * radix + (toDigit radix c).getD 0) 0
  if digits.isEmpty || maxDigits < digits.length then none
  else if !allowZeroPrefix && s.head? == some '0' && 1 < digits.length then none
  else if value < bound then some (value, s.drop digits.length)
  else none

/-- `Parser::read_given_char`. -/
def readGivenChar (c : Char) : List Char → Option (List Char)
  | x :: rest => if x = c then some rest else none
  | [] => none

/-- `Parser::read_separator`: the separator before every item but the first. -/
def readSeparator {α : Type} (sep : Char) (index : Nat)
    (inner : List Char → Option (α × List Char)) (s : List Char) : Option (α × List Char) :=
  if 0 < index then (readGivenChar sep s).bind inner else inner s

/-- An octet of an IPv4 address: `read_number(10, Some(3), false)` for a `u8`. -/
def readOctet : List Char → Option (Nat × List Char) := readNumber 10 3 false 256

/-- `Parser::read_ipv4_addr`: four octets separated by `.`. -/
def readIpv4Addr (s : List Char) : Option (Nat × List Char) := do
  let (a, s) ← readSeparator '.' 0 readOctet s
  let (b, s) ← readSeparator '.' 1 readOctet s
  let (c, s) ← readSeparator '.' 2 readOctet s
  let (d, s) ← readSeparator '.' 3 readOctet s
  pure (((a * 256 + b) * 256 + c) * 256 + d, s)

/-- `Ipv4Addr::from_str`. -/
def parseIpv4 (s : List Char) : Option Nat :=
  if 15 < s.length then none
  else
    match readIpv4Addr s with
    | some (value, []) => some value
    | _ => none

/-- A group of an IPv6 address: `read_number(16, Some(4), true)` for a `u16`. -/
def readHexGroup : List Char → Option (Nat × List Char) := readNumber 16 4 true 65536

/-- The loop of `read_groups` from slot `index`, with `remaining` slots left of `limit`:
    the groups read, whether an embedded IPv4 address ended them, and the rest. -/
def readGroupsFrom (limit : Nat) : (remaining index : Nat) → List Char →
    List Nat × Bool × List Char
  | 0, _, s => ([], false, s)
  | remaining + 1, index, s =>
    -- an embedded IPv4 address needs two slots
    let ipv4 := if index + 1 < limit then readSeparator ':' index readIpv4Addr s else none
    match ipv4 with
    | some (v4, rest) => ([v4 / 65536, v4 % 65536], true, rest)
    | none =>
      match readSeparator ':' index readHexGroup s with
      | some (group, rest) =>
        let read := readGroupsFrom limit remaining (index + 1) rest
        (group :: read.1, read.2)
      | none => ([], false, s)

/-- `read_groups` into `limit` slots. -/
def readGroups (limit : Nat) (s : List Char) : List Nat × Bool × List Char :=
  readGroupsFrom limit limit 0 s

/-- The bits of an address from its groups of `width` bits, most significant first. -/
def groupsValue (width : Nat) (groups : List Nat) : Nat :=
  groups.foldl (fun acc g => acc * 2 ^ width + g) 0

/-- `Parser::read_ipv6_addr`: the groups before `::`, then the groups after it, with
    zero groups between. -/
def readIpv6Addr (s : List Char) : Option (Nat × List Char) :=
  let (head, headIpv4, s) := readGroups 8 s
  if head.length = 8 then some (groupsValue 16 head, s)
  -- an IPv4 address is allowed only at the end
  else if headIpv4 then none
  else
    match (readGivenChar ':' s).bind (readGivenChar ':') with
    | none => none
    | some s =>
      let (tail, _, s) := readGroups (8 - (head.length + 1)) s
      some (groupsValue 16 (head ++ List.replicate (8 - head.length - tail.length) 0 ++ tail), s)

/-- `Ipv6Addr::from_str`. -/
def parseIpv6 (s : List Char) : Option Nat :=
  match readIpv6Addr s with
  | some (value, []) => some value
  | _ => none

/-! ## Display -/

/-- `Display` of an `Ipv4Addr`: the four octets in decimal, separated by `.`. -/
def ipv4Chars (address : Nat) : List Char :=
  Nat.toDigits 10 (address / 2 ^ 24 % 256) ++ '.' :: Nat.toDigits 10 (address / 2 ^ 16 % 256) ++
    '.' :: Nat.toDigits 10 (address / 2 ^ 8 % 256) ++ '.' :: Nat.toDigits 10 (address % 256)

/-! ## Reading back what `Display` writes -/

/-- A reader of digits stops at the first character that is not one. -/
theorem readNumber_append {radix maxDigits bound : Nat} {allowZeroPrefix : Bool}
    {digits rest : List Char} (hdigits : ∀ c ∈ digits, (toDigit radix c).isSome)
    (hne : digits ≠ []) (hrest : ∀ c ∈ rest.head?, (toDigit radix c).isSome = false) :
    readNumber radix maxDigits allowZeroPrefix bound (digits ++ rest) =
      (readNumber radix maxDigits allowZeroPrefix bound digits).map
        fun read => (read.1, read.2 ++ rest) := by
  have hstop : rest.takeWhile (fun c => (toDigit radix c).isSome) = [] := by
    cases rest with
    | nil => rfl
    | cons c cs => rw [List.takeWhile_cons_of_neg (by simpa using hrest c rfl)]
  have htake : (digits ++ rest).takeWhile (fun c => (toDigit radix c).isSome) = digits := by
    rw [List.takeWhile_append_of_pos hdigits, hstop, List.append_nil]
  have htakeSelf : digits.takeWhile (fun c => (toDigit radix c).isSome) = digits :=
    List.takeWhile_eq_self_iff.mpr hdigits
  have hhead : (digits ++ rest).head? = digits.head? := List.head?_append_of_ne_nil _ hne
  simp only [readNumber, htake, htakeSelf, hhead, List.drop_left' rfl, List.drop_length]
  split_ifs <;> rfl

/-! The decimal text of every octet is one to three digits that `readOctet` reads back. -/

theorem readOctet_toDigits : ∀ k < 256, readOctet (Nat.toDigits 10 k) = some (k, []) := by
  decide +kernel

theorem toDigits_octet_all : ∀ k < 256, (Nat.toDigits 10 k).all (fun c => (toDigit 10 c).isSome) := by
  decide +kernel

theorem toDigits_octet_isDigit {k : Nat} (hk : k < 256) :
    ∀ c ∈ Nat.toDigits 10 k, (toDigit 10 c).isSome :=
  List.all_eq_true.mp (toDigits_octet_all k hk)

theorem length_toDigits_octet : ∀ k < 256, (Nat.toDigits 10 k).length ≤ 3 := by
  decide +kernel

/-- A character that is not a decimal digit does not occur in the text of an octet. -/
theorem not_mem_toDigits_octet {k : Nat} (hk : k < 256) {c : Char} (hc : toDigit 10 c = none) :
    c ∉ Nat.toDigits 10 k := by
  intro hmem
  have hdigit := toDigits_octet_isDigit hk c hmem
  rw [hc] at hdigit
  cases hdigit

/-- A character that is neither a decimal digit nor `.` does not occur in the text of an
    address. -/
theorem not_mem_ipv4Chars {address : Nat} {c : Char} (hc : toDigit 10 c = none)
    (hdot : c ≠ '.') : c ∉ ipv4Chars address := by
  have hoctet : ∀ k, c ∉ Nat.toDigits 10 (k % 256) := fun k =>
    not_mem_toDigits_octet (Nat.mod_lt _ (by decide)) hc
  simp only [ipv4Chars, List.mem_append, List.mem_cons, not_or]
  exact ⟨⟨⟨hoctet _, hdot, hoctet _⟩, hdot, hoctet _⟩, hdot, hoctet _⟩

theorem readOctet_toDigits_append {k : Nat} (hk : k < 256) {rest : List Char}
    (hrest : ∀ c ∈ rest.head?, (toDigit 10 c).isSome = false) :
    readOctet (Nat.toDigits 10 k ++ rest) = some (k, rest) := by
  rw [readOctet, readNumber_append (toDigits_octet_isDigit hk) Nat.toDigits_ne_nil hrest,
    ← readOctet, readOctet_toDigits k hk]
  rfl

theorem readIpv4Addr_eq {s s₁ s₂ s₃ rest : List Char} {a b c d : Nat}
    (ha : readOctet s = some (a, '.' :: s₁)) (hb : readOctet s₁ = some (b, '.' :: s₂))
    (hc : readOctet s₂ = some (c, '.' :: s₃)) (hd : readOctet s₃ = some (d, rest)) :
    readIpv4Addr s = some (((a * 256 + b) * 256 + c) * 256 + d, rest) := by
  simp [readIpv4Addr, readSeparator, readGivenChar, ha, hb, hc, hd]

theorem toNat_of_isDigit {c : Char} (h : c.isDigit = true) : 48 ≤ c.toNat ∧ c.toNat ≤ 57 := by
  simp only [Char.isDigit, Bool.and_eq_true, decide_eq_true_eq] at h
  exact ⟨h.1, h.2⟩

theorem isUpper_of_isDigit {c : Char} (h : c.isDigit = true) : c.isUpper = false := by
  simp only [Char.isDigit, Char.isUpper, Bool.and_eq_true, decide_eq_true_eq,
    decide_eq_false_iff_not] at h ⊢
  intro hA
  exact absurd (UInt32.le_trans hA.1 h.2) (by decide)

/-- The digit loop reads a run of digits as their value, when that stays in range: every
    value it passes on the way is at most the last. -/
theorem parseDigits_of_digits {bound : Nat} {l : List Char} {acc : Nat}
    (hdigits : ∀ c ∈ l, c.isDigit = true) (hlt : Nat.ofDigitChars 10 l acc < bound) :
    parseDigits bound l acc = .ok (Nat.ofDigitChars 10 l acc) := by
  induction l generalizing acc with
  | nil => rfl
  | cons c cs ih =>
    have hc : c.isDigit = true := hdigits c List.mem_cons_self
    have hcs : ∀ d ∈ cs, d.isDigit = true := fun d hd => hdigits d (List.mem_cons_of_mem c hd)
    rw [Nat.ofDigitChars_cons] at hlt ⊢
    -- the value after this digit is at most the final one
    have hle : 10 * acc + (c.toNat - '0'.toNat) ≤
        Nat.ofDigitChars 10 cs (10 * acc + (c.toNat - '0'.toNat)) := by
      rw [Nat.ofDigitChars_eq_ofDigitChars_zero]
      have := Nat.one_le_two_pow.trans (Nat.pow_le_pow_left (by decide : 2 ≤ 10) cs.length)
      nlinarith
    have hnext : acc * 10 + (c.toNat - '0'.toNat) < bound := by omega
    rw [parseDigits, if_pos hc, if_pos hnext, Nat.mul_comm acc 10]
    exact ih hcs hlt

/-- The digit loop fails at a character that is not a digit, if not before. -/
theorem parseDigits_append_of_not_digit {bound : Nat} {c : Char} (hc : c.isDigit = false)
    (rest : List Char) : ∀ (l : List Char) (acc : Nat),
      ∃ error, parseDigits bound (l ++ c :: rest) acc = .error error
  | [], acc => ⟨.invalidDigit, by rw [List.nil_append, parseDigits, if_neg (by simp [hc])]⟩
  | d :: ds, acc => by
    rw [List.cons_append, parseDigits]
    split
    · dsimp only
      split
      · exact parseDigits_append_of_not_digit hc rest ds _
      · exact ⟨_, rfl⟩
    · exact ⟨_, rfl⟩

/-- The text `from_str` reads for a decimal text of digits only: its digit loop. -/
theorem parseUnsigned_of_head_digit {bound : Nat} {c : Char} (hc : c.isDigit = true)
    (rest : List Char) : parseUnsigned bound (c :: rest) = parseDigits bound (c :: rest) 0 := by
  have hplus : c ≠ '+' := by
    rintro rfl
    exact absurd hc (by decide)
  have hminus : c ≠ '-' := by
    rintro rfl
    exact absurd hc (by decide)
  rw [parseUnsigned] <;> simp_all

/-- `from_str` reads the decimal text of a value in range as that value. -/
theorem parseUnsigned_toDigits_of_lt {bound v : Nat} (h : v < bound) :
    parseUnsigned bound (Nat.toDigits 10 v) = .ok v := by
  have hdigits : ∀ c ∈ Nat.toDigits 10 v, c.isDigit = true :=
    fun c hc => Nat.isDigit_of_mem_toDigits (by decide) (by decide) hc
  obtain ⟨c, rest, hcons⟩ := List.exists_cons_of_ne_nil (Nat.toDigits_ne_nil (b := 10) (n := v))
  have hofDigits := Nat.ofDigitChars_ten_toDigits (n := v)
  rw [hcons] at hdigits hofDigits ⊢
  rw [parseUnsigned_of_head_digit (hdigits c List.mem_cons_self), parseDigits_of_digits hdigits
    (by rw [hofDigits]; exact h), hofDigits]

/-- `from_str` fails on a decimal text followed by anything that is not a digit. -/
theorem parseUnsigned_toDigits_append_of_not_digit {bound v : Nat} {c : Char}
    (hc : c.isDigit = false) (rest : List Char) :
    ∃ error, parseUnsigned bound (Nat.toDigits 10 v ++ c :: rest) = .error error := by
  obtain ⟨d, ds, hcons⟩ := List.exists_cons_of_ne_nil (Nat.toDigits_ne_nil (b := 10) (n := v))
  have hd : d.isDigit = true :=
    Nat.isDigit_of_mem_toDigits (by decide) (by decide) (hcons ▸ List.mem_cons_self)
  rw [hcons, List.cons_append, parseUnsigned_of_head_digit hd, ← List.cons_append]
  exact parseDigits_append_of_not_digit hc rest _ 0

/-- The decimal text of a positive number has no leading zero. -/
theorem toDigits_head_ne_zero {n : Nat} (hn : 0 < n) : (Nat.toDigits 10 n).head? ≠ some '0' := by
  induction n using Nat.strong_induction_on with
  | _ n ih =>
    by_cases hsmall : n < 10
    · rw [Nat.toDigits_of_lt_base hsmall]
      interval_cases n <;> decide
    · have hdiv : 0 < n / 10 := Nat.div_pos (by omega) (by decide)
      have hsplit := Nat.toDigits_append_toDigits (b := 10) (d := n % 10) (by decide) hdiv (Nat.mod_lt _ (by decide))
      rw [Nat.div_add_mod] at hsplit
      rw [← hsplit, List.head?_append_of_ne_nil _ Nat.toDigits_ne_nil]
      exact ih (n / 10) (Nat.div_lt_self hn (by decide)) hdiv

theorem parseUnsigned_toDigits : ∀ n < 256, parseUnsigned 256 (Nat.toDigits 10 n) = .ok n :=
  fun _ h => parseUnsigned_toDigits_of_lt h

theorem parseIpv4_ipv4Chars {address : Nat} (h : address < 2 ^ 32) :
    parseIpv4 (ipv4Chars address) = some address := by
  have hdot : ∀ rest : List Char, ∀ c ∈ ('.' :: rest).head?, (toDigit 10 c).isSome = false := by
    intro rest c hc
    rw [List.head?_cons, Option.mem_some_iff] at hc
    rw [← hc]
    rfl
  have h0 : address / 2 ^ 24 % 256 < 256 := Nat.mod_lt _ (by decide)
  have h1 : address / 2 ^ 16 % 256 < 256 := Nat.mod_lt _ (by decide)
  have h2 : address / 2 ^ 8 % 256 < 256 := Nat.mod_lt _ (by decide)
  have h3 : address % 256 < 256 := Nat.mod_lt _ (by decide)
  have hlen : (ipv4Chars address).length ≤ 15 := by
    simp only [ipv4Chars, List.length_append, List.length_cons]
    have := length_toDigits_octet _ h0
    have := length_toDigits_octet _ h1
    have := length_toDigits_octet _ h2
    have := length_toDigits_octet _ h3
    omega
  have hread := readIpv4Addr_eq (readOctet_toDigits_append h0 (hdot _))
    (readOctet_toDigits_append h1 (hdot _)) (readOctet_toDigits_append h2 (hdot _))
    (readOctet_toDigits _ h3)
  -- the four octets are the base-256 digits of the address
  have hvalue : ((address / 2 ^ 24 % 256 * 256 + address / 2 ^ 16 % 256) * 256 +
      address / 2 ^ 8 % 256) * 256 + address % 256 = address := by omega
  rw [hvalue] at hread
  rw [parseIpv4, if_neg (by omega), ipv4Chars]
  simp only [List.append_assoc, List.cons_append]
  rw [hread]

end A3sBox.Lib.Net
