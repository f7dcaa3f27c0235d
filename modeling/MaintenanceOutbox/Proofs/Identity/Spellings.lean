import MaintenanceOutbox.Proofs.Payload.Texts
import Mathlib.Data.List.Basic
import Mathlib.Data.List.Induction

set_option autoImplicit false

/-! # Names and their spellings

A name is displayed in one way and spelled in four: as it is displayed, without the hyphens, in
braces, and after `urn:uuid:`, with letters of either case. The texts that are read as a name are
its spellings and no others, no text spells two names, and names are ordered like the texts that
display them (`Identity.texts_agree`).

Reading is compared with writing from the inside out: a digit, the number that digits denote, the
digits in their groups, and at last the four spellings, which are told apart by their lengths.
-/

namespace MaintenanceOutbox

namespace Uuid

variable {c : Char} {cs : List Char} {u v : Uuid}

/-! ## Digits in either case -/

theorem hexValue?_bounds {n : Nat} (read : hexValue? c = some n) : n < 16 ∧ c.toNat < 128 := by
  have toNat : c.toNat = c.val.toNat := rfl
  simp only [hexValue?, Bool.and_eq_true, decide_eq_true_eq, Char.le_def, UInt32.le_iff_toNat_le]
    at read
  simp at read
  split at read
  · cases read; omega
  · split at read
    · cases read; omega
    · split at read
      · cases read; omega
      · cases read

theorem toNat_toLower (c : Char) :
    c.toLower.toNat = if 65 ≤ c.toNat ∧ c.toNat ≤ 90 then c.toNat + 32 else c.toNat := by
  have capital : (c.val ≥ 'A'.val ∧ c.val ≤ 'Z'.val) ↔ 65 ≤ c.toNat ∧ c.toNat ≤ 90 := by
    rw [ge_iff_le, UInt32.le_iff_toNat_le, UInt32.le_iff_toNat_le]
    rfl
  by_cases upper : 65 ≤ c.toNat ∧ c.toNat ≤ 90
  · have lowered : c.toLower.val = c.val + 32 := congrArg Char.val (dif_pos (capital.mpr upper))
    rw [if_pos upper, Char.toNat, lowered, UInt32.toNat_add]
    show (c.toNat + 32) % 2 ^ 32 = c.toNat + 32
    omega
  · have same : c.toLower = c := dif_neg (capital.not.mpr upper)
    rw [same, if_neg upper]

theorem toLower_eq_self (beyond : 128 ≤ c.toNat) : c.toLower = c := by
  rw [← Char.toNat_inj, toNat_toLower, if_neg (by omega)]

theorem toNat_digitChar_lt : ∀ n < 16, (Nat.digitChar n).toNat < 128 := by decide

theorem hexValue?_ascii : ∀ k < 128, ∀ n < 16,
    hexValue? (Char.ofNat k) = some n ↔ (Char.ofNat k).toLower = Nat.digitChar n := by
  decide +kernel

/-- **A digit** is the written digit in either case. -/
theorem hexValue?_eq_some_iff {n : Nat} :
    hexValue? c = some n ↔ n < 16 ∧ c.toLower = Nat.digitChar n := by
  constructor
  · intro read
    obtain ⟨small, ascii⟩ := hexValue?_bounds read
    have table := hexValue?_ascii c.toNat ascii n small
    rw [Char.ofNat_toNat] at table
    exact ⟨small, table.mp read⟩
  · rintro ⟨small, written⟩
    have ascii : c.toNat < 128 := by
      by_contra beyond
      rw [toLower_eq_self (by omega)] at written
      exact beyond (written ▸ toNat_digitChar_lt n small)
    have table := hexValue?_ascii c.toNat ascii n small
    rw [Char.ofNat_toNat] at table
    exact table.mpr written

/-- What is no letter has one case only. -/
theorem toLower_eq_sign_iff {sign : Char} (noCapital : ¬ (65 ≤ sign.toNat ∧ sign.toNat ≤ 90))
    (noLetter : ¬ (97 ≤ sign.toNat ∧ sign.toNat ≤ 122)) : c.toLower = sign ↔ c = sign := by
  rw [← Char.toNat_inj, ← Char.toNat_inj, toNat_toLower]
  split <;> omega

theorem toLower_eq_hyphen_iff : c.toLower = '-' ↔ c = '-' :=
  toLower_eq_sign_iff (by decide) (by decide)

/-- **The number that digits denote** is the one that has them as its written digits. -/
theorem hexNumber?_eq_some_iff {n : Nat} :
    hexNumber? cs = some n ↔ n < 16 ^ cs.length ∧ cs.map Char.toLower = hexDigits cs.length n := by
  induction cs using List.reverseRecOn generalizing n with
  | nil =>
      show some 0 = some n ↔ n < 1 ∧ [] = []
      simp [eq_comm]
  | append_singleton cs c ih =>
      have step : hexNumber? (cs ++ [c]) =
          (hexNumber? cs).bind fun m => (hexValue? c).map (m * 16 + ·) := by
        rw [hexNumber?, List.foldlM_append]
        show (hexNumber? cs).bind _ = _
        simp
      rw [step, List.length_append, List.length_singleton, List.map_append, hexDigits,
        List.map_singleton, Nat.pow_succ]
      constructor
      · intro read
        obtain ⟨m, before, read⟩ := Option.bind_eq_some_iff.mp read
        obtain ⟨d, last, rfl⟩ := Option.map_eq_some_iff.mp read
        obtain ⟨small, written⟩ := hexValue?_eq_some_iff.mp last
        obtain ⟨fits, same⟩ := ih.mp before
        refine ⟨by omega, ?_⟩
        rw [same, written, show (m * 16 + d) / 16 = m by omega,
          show (m * 16 + d) % 16 = d by omega]
      · rintro ⟨fits, written⟩
        obtain ⟨before, last⟩ := List.append_inj' written rfl
        have small : n % 16 < 16 := Nat.mod_lt n (by decide)
        rw [ih.mpr ⟨by omega, before⟩, Option.bind_some,
          hexValue?_eq_some_iff.mpr ⟨small, List.singleton_inj.mp last⟩, Option.map_some,
          show n / 16 * 16 + n % 16 = n by omega]

/-- **The 32 digits of an identifier**, in either case. -/
theorem ofDigits?_eq_some_iff : ofDigits? cs = some u ↔ cs.map Char.toLower = u.digits := by
  have length : u.digits.length = 32 := length_hexDigits 32 u.value
  constructor
  · intro read
    rw [ofDigits?] at read
    split at read
    · next all =>
        obtain ⟨n, number, rfl⟩ := Option.map_eq_some_iff.mp read
        obtain ⟨fits, written⟩ := hexNumber?_eq_some_iff.mp number
        rw [all] at fits written
        rw [written, digits]
        exact congrArg (hexDigits 32) (Nat.mod_eq_of_lt fits).symm
    · cases read
  · intro written
    have all : cs.length = 32 := by rw [← length, ← written, List.length_map]
    have number : hexNumber? cs = some u.value :=
      hexNumber?_eq_some_iff.mpr ⟨all ▸ u.value_lt, all ▸ written⟩
    rw [ofDigits?, if_pos all, number, Option.map_some, ofNat_value]

/-! ## Digits in groups -/

theorem map_grouped (f : Char → Char) (hyphen : f '-' = '-') (ds : List Char) :
    (grouped ds).map f = grouped (ds.map f) := by
  simp [grouped, hyphen, List.map_take, List.map_drop]

/-- Texts that differ in the case of letters only differ in nothing if their digits do not. -/
theorem eq_of_toLower_of_filter {xs ys : List Char}
    (lower : xs.map Char.toLower = ys.map Char.toLower)
    (digits : xs.filter (· ≠ '-') = ys.filter (· ≠ '-')) : xs = ys := by
  induction xs generalizing ys with
  | nil => exact (List.map_eq_nil_iff.mp lower.symm).symm
  | cons x xs ih =>
      cases ys with
      | nil => cases lower
      | cons y ys =>
          obtain ⟨first, rest⟩ := List.cons.inj lower
          by_cases hyphen : x = '-'
          · have hyphen' : y = '-' :=
              toLower_eq_hyphen_iff.mp (first ▸ toLower_eq_hyphen_iff.mpr hyphen)
            subst hyphen hyphen'
            rw [ih rest (by simpa using digits)]
          · have digit : y ≠ '-' := fun hyphen' =>
              hyphen (toLower_eq_hyphen_iff.mp (first ▸ toLower_eq_hyphen_iff.mpr hyphen'))
            simp only [ne_eq, hyphen, digit, not_false_eq_true, decide_true,
              List.filter_cons_of_pos, List.cons.injEq] at digits
            rw [digits.1, ih rest digits.2]

theorem filter_digits (u : Uuid) : (grouped u.digits).filter (· ≠ '-') = u.digits :=
  filter_grouped fun _ => ne_hyphen_of_mem_hexDigits

/-- **The written form of an identifier**, in either case. -/
theorem ofGrouped?_eq_some_iff :
    ofGrouped? cs = some u ↔ cs.map Char.toLower = grouped u.digits := by
  constructor
  · intro read
    rw [ofGrouped?] at read
    split at read
    · next whole =>
        rw [whole, map_grouped _ rfl, ofDigits?_eq_some_iff.mp read]
    · cases read
  · intro written
    have plain : (cs.filter (· ≠ '-')).map Char.toLower = u.digits := by
      calc (cs.filter (· ≠ '-')).map Char.toLower
          = (cs.map Char.toLower).filter (· ≠ '-') := by
            rw [List.filter_map]
            simp [Function.comp_def, toLower_eq_hyphen_iff]
        _ = u.digits := by rw [written, filter_digits]
    have whole : cs = grouped (cs.filter (· ≠ '-')) := by
      refine eq_of_toLower_of_filter ?_ ?_
      · rw [written, map_grouped _ rfl, plain]
      · rw [filter_grouped fun c hc => of_decide_eq_true (List.mem_filter.mp hc).2]
    rw [ofGrouped?, if_pos whole]
    exact ofDigits?_eq_some_iff.mpr plain

/-! ## The four spellings -/

theorem insideBraces?_eq_some_iff {inside : List Char} :
    insideBraces? cs = some inside ↔ cs = '\x7b' :: inside ++ ['\x7d'] := by
  constructor
  · intro read
    rw [insideBraces?.eq_def] at read
    split at read
    · next rest =>
        split at read
        · next closed =>
            cases read
            rw [List.cons_append, List.dropLast_append_getLast? _ closed]
        · cases read
    · cases read
  · rintro rfl
    simp [insideBraces?]

theorem afterUrn?_eq_some_iff {rest : List Char} :
    afterUrn? cs = some rest ↔
      ∃ head, cs = head ++ rest ∧ head.map Char.toLower = "urn:uuid:".toList := by
  constructor
  · intro read
    rw [afterUrn?] at read
    split at read
    · next named =>
        cases read
        exact ⟨cs.take 9, (List.take_append_drop 9 cs).symm, named⟩
    · cases read
  · rintro ⟨head, rfl, named⟩
    have nine : head.length = 9 := by
      rw [← List.length_map Char.toLower, named]
      rfl
    rw [afterUrn?, List.take_left' nine, List.drop_left' nine, if_pos named]

/-- A way to spell an identifier. -/
inductive Form where
  | plain
  | hyphenated
  | braced
  | urn
deriving DecidableEq

namespace Form

/-- How an identifier with the given displayed text is spelled, with letters in lower case. -/
def spell (displayed : List Char) : Form → List Char
  | plain => displayed.filter (· ≠ '-')
  | hyphenated => displayed
  | braced => '\x7b' :: displayed ++ ['\x7d']
  | urn => "urn:uuid:".toList ++ displayed

/-- The identifier that a text spells in the given way. -/
def read? (cs : List Char) : Form → Option Uuid
  | plain => ofDigits? cs
  | hyphenated => ofGrouped? cs
  | braced => (insideBraces? cs).bind ofGrouped?
  | urn => (afterUrn? cs).bind ofGrouped?

/-- The number of characters of a spelling. -/
def length : Form → Nat
  | plain => 32
  | hyphenated => 36
  | braced => 38
  | urn => 45

theorem read?_eq_some_iff (form : Form) :
    form.read? cs = some u ↔ cs.map Char.toLower = form.spell (grouped u.digits) := by
  cases form with
  | plain =>
      show ofDigits? cs = some u ↔ cs.map Char.toLower = (grouped u.digits).filter (· ≠ '-')
      simp only [filter_digits]
      exact ofDigits?_eq_some_iff
  | hyphenated => exact ofGrouped?_eq_some_iff
  | braced =>
      show (insideBraces? cs).bind ofGrouped? = some u ↔ _
      constructor
      · intro read
        obtain ⟨inside, within, grouped⟩ := Option.bind_eq_some_iff.mp read
        rw [insideBraces?_eq_some_iff.mp within, List.map_append, List.map_cons,
          ofGrouped?_eq_some_iff.mp grouped]
        rfl
      · intro spelled
        obtain ⟨front, back, rfl, opens, closes⟩ := List.map_eq_append_iff.mp spelled
        obtain ⟨left, inside, rfl, opening, written⟩ := List.map_eq_cons_iff.mp opens
        obtain ⟨right, rfl, closing⟩ := List.map_eq_singleton_iff.mp closes
        rw [toLower_eq_sign_iff (by decide) (by decide)] at opening closing
        subst opening closing
        rw [insideBraces?_eq_some_iff.mpr rfl, Option.bind_some]
        exact ofGrouped?_eq_some_iff.mpr written
  | urn =>
      show (afterUrn? cs).bind ofGrouped? = some u ↔ _
      constructor
      · intro read
        obtain ⟨rest, after, grouped⟩ := Option.bind_eq_some_iff.mp read
        obtain ⟨head, whole, named⟩ := afterUrn?_eq_some_iff.mp after
        rw [whole, List.map_append, named, ofGrouped?_eq_some_iff.mp grouped]
        rfl
      · intro spelled
        obtain ⟨head, rest, rfl, named, written⟩ := List.map_eq_append_iff.mp spelled
        rw [afterUrn?_eq_some_iff.mpr ⟨head, rfl, named⟩, Option.bind_some]
        exact ofGrouped?_eq_some_iff.mpr written

theorem length_spell (form : Form) (u : Uuid) :
    (form.spell (grouped u.digits)).length = form.length := by
  have digits : u.digits.length = 32 := length_hexDigits 32 u.value
  cases form with
  | plain =>
      show ((grouped u.digits).filter (· ≠ '-')).length = 32
      simp only [filter_digits]
      exact digits
  | hyphenated => exact length_grouped digits
  | braced =>
      show ('\x7b' :: grouped u.digits ++ ['\x7d']).length = 38
      rw [List.length_append, List.length_cons, length_grouped digits]
      rfl
  | urn =>
      show ("urn:uuid:".toList ++ grouped u.digits).length = 45
      rw [List.length_append, length_grouped digits]
      rfl

/-- No text is spelled in two ways. -/
theorem unique {form form' : Form} (read : form.read? cs = some u)
    (read' : form'.read? cs = some v) : form = form' := by
  have same : form.length = form'.length := by
    rw [← form.length_spell u, ← form.read?_eq_some_iff.mp read, ← form'.length_spell v,
      ← form'.read?_eq_some_iff.mp read']
  revert same
  cases form <;> cases form' <;> decide

end Form

/-- **The texts of an identifier** are its four spellings, with letters of either case. -/
theorem ofChars?_eq_some_iff :
    ofChars? cs = some u ↔
      ∃ form : Form, cs.map Char.toLower = form.spell (grouped u.digits) := by
  have ways : ofChars? cs = (Form.plain.read? cs <|> Form.hyphenated.read? cs <|>
      Form.braced.read? cs <|> Form.urn.read? cs) := rfl
  simp only [← Form.read?_eq_some_iff]
  constructor
  · intro read
    rw [ways] at read
    simp only [Option.orElse_eq_orElse, Option.orElse_eq_or, Option.or_eq_some_iff] at read
    obtain plain | ⟨-, hyphenated | ⟨-, braced | ⟨-, urn⟩⟩⟩ := read
    · exact ⟨.plain, plain⟩
    · exact ⟨.hyphenated, hyphenated⟩
    · exact ⟨.braced, braced⟩
    · exact ⟨.urn, urn⟩
  · rintro ⟨form, read⟩
    -- the ways that are tried before fail, as the text has another length
    have other : ∀ form' ≠ form, form'.read? cs = none := by
      intro form' differs
      cases read' : form'.read? cs with
      | none => rfl
      | some v => exact absurd (Form.unique read' read) differs
    rw [ways]
    cases form with
    | plain => rw [read]; rfl
    | hyphenated => rw [other .plain (by decide), read]; rfl
    | braced => rw [other .plain (by decide), other .hyphenated (by decide), read]; rfl
    | urn =>
        rw [other .plain (by decide), other .hyphenated (by decide), other .braced (by decide),
          read]
        rfl

/-- Texts that differ in the case of letters at most. -/
def SameLetters (s t : List Char) : Prop :=
  s.map Char.toLower = t.map Char.toLower

theorem Form.map_spell (form : Form) (u : Uuid) :
    (form.spell (grouped u.digits)).map Char.toLower = form.spell (grouped u.digits) := by
  have digits : u.digits.map Char.toLower = u.digits :=
    ofDigits?_eq_some_iff.mp (ofDigits?_digits u)
  have displayed : (grouped u.digits).map Char.toLower = grouped u.digits := by
    rw [map_grouped _ rfl, digits]
  cases form with
  | plain =>
      show ((grouped u.digits).filter (· ≠ '-')).map Char.toLower =
        (grouped u.digits).filter (· ≠ '-')
      rw [filter_digits, digits]
  | hyphenated => exact displayed
  | braced =>
      show ('\x7b' :: grouped u.digits ++ ['\x7d']).map Char.toLower =
        '\x7b' :: grouped u.digits ++ ['\x7d']
      rw [List.map_append, List.map_cons, displayed]
      rfl
  | urn =>
      show ("urn:uuid:".toList ++ grouped u.digits).map Char.toLower =
        "urn:uuid:".toList ++ grouped u.digits
      rw [List.map_append, displayed]
      rfl

theorem parse_eq_ok_iff {s : String} : parse s = .ok u ↔
    ∃ form : Form, SameLetters s.toList (form.spell u.toText.toList) := by
  have read : parse s = .ok u ↔ ofChars? s.toList = some u := by
    rw [parse]
    cases ofChars? s.toList <;> simp
  simp only [read, ofChars?_eq_some_iff, toText, String.toList_ofList, SameLetters, Form.map_spell]

/-! ## The order -/

theorem toText_injective (same : u.toText = v.toText) : u = v := by
  have read := parse_toText u
  rw [same, parse_toText] at read
  cases read
  rfl

/-- Texts of one length are compared before what follows them. -/
theorem append_lt_append_iff {a b x y : List Char} (same : a.length = b.length) :
    a ++ x < b ++ y ↔ a < b ∨ a = b ∧ x < y := by
  induction a generalizing b with
  | nil =>
      rw [List.length_nil, eq_comm, List.length_eq_zero_iff] at same
      simp [same]
  | cons c a ih =>
      cases b with
      | nil => cases same
      | cons d b =>
          rw [List.cons_append, List.cons_append, List.cons_lt_cons_iff, List.cons_lt_cons_iff,
            ih (Nat.succ.inj same)]
          constructor
          · rintro (first | ⟨rfl, before | ⟨rfl, after⟩⟩)
            · exact .inl (.inl first)
            · exact .inl (.inr ⟨rfl, before⟩)
            · exact .inr ⟨rfl, after⟩
          · rintro ((first | ⟨rfl, before⟩) | ⟨same, after⟩)
            · exact .inl first
            · exact .inr ⟨rfl, .inl before⟩
            · cases same
              exact .inr ⟨rfl, .inr ⟨rfl, after⟩⟩

theorem hexDigits_inj {width n m : Nat} (hn : n < 16 ^ width) (hm : m < 16 ^ width) :
    hexDigits width n = hexDigits width m ↔ n = m := by
  constructor
  · intro same
    have number := hexNumber?_hexDigits width n
    rw [same, hexNumber?_hexDigits, Nat.mod_eq_of_lt hn, Nat.mod_eq_of_lt hm] at number
    exact (Option.some.inj number).symm
  · rintro rfl
    rfl

/-- Numbers of as many digits are ordered like their digits. -/
theorem hexDigits_lt_iff {width n m : Nat} (hn : n < 16 ^ width) (hm : m < 16 ^ width) :
    hexDigits width n < hexDigits width m ↔ n < m := by
  have digit : ∀ a < 16, ∀ b < 16, Nat.digitChar a < Nat.digitChar b ↔ a < b := by decide
  induction width generalizing n m with
  | zero =>
      have : n = m := by omega
      simp [this]
  | succ width ih =>
      have hn' : n / 16 < 16 ^ width := by rw [Nat.pow_succ] at hn; omega
      have hm' : m / 16 < 16 ^ width := by rw [Nat.pow_succ] at hm; omega
      have last : [Nat.digitChar (n % 16)] < [Nat.digitChar (m % 16)] ↔ n % 16 < m % 16 := by
        rw [List.cons_lt_cons_iff, digit _ (Nat.mod_lt n (by decide)) _ (Nat.mod_lt m (by decide))]
        simp
      calc hexDigits (width + 1) n < hexDigits (width + 1) m
          ↔ hexDigits width (n / 16) < hexDigits width (m / 16) ∨
              hexDigits width (n / 16) = hexDigits width (m / 16) ∧
                [Nat.digitChar (n % 16)] < [Nat.digitChar (m % 16)] :=
            append_lt_append_iff (by simp [length_hexDigits])
        _ ↔ n / 16 < m / 16 ∨ n / 16 = m / 16 ∧ n % 16 < m % 16 :=
            or_congr (ih hn' hm') (and_congr (hexDigits_inj hn' hm') last)
        _ ↔ n < m := by omega

/-- Hyphens at the same places leave the order as it is. -/
theorem grouped_lt_grouped {ds es : List Char} (hd : ds.length = 32) (he : es.length = 32) :
    grouped ds < grouped es ↔ ds < es := by
  have group : ∀ i n, ((ds.drop i).take n).length = ((es.drop i).take n).length := by
    intro i n
    simp [hd, he]
  have hyphen : ∀ x y : List Char, '-' :: x < '-' :: y ↔ x < y := by
    intro x y
    simp
  have first : ∀ x y : List Char,
      ds.take 8 ++ x < es.take 8 ++ y ↔ ds.take 8 < es.take 8 ∨ ds.take 8 = es.take 8 ∧ x < y :=
    fun x y => append_lt_append_iff (group 0 8)
  have later : ∀ (i : Nat) (x y : List Char),
      (ds.drop i).take 4 ++ x < (es.drop i).take 4 ++ y ↔
        (ds.drop i).take 4 < (es.drop i).take 4 ∨ (ds.drop i).take 4 = (es.drop i).take 4 ∧ x < y :=
    fun i x y => append_lt_append_iff (group i 4)
  conv_rhs => rw [← groups_append ds, ← groups_append es]
  simp only [grouped, List.append_assoc, List.cons_append, first, later, hyphen]

theorem toText_lt_toText : u.toText < v.toText ↔ u < v := by
  have length : ∀ u : Uuid, u.digits.length = 32 := fun u => length_hexDigits 32 u.value
  calc u.toText < v.toText
      ↔ grouped u.digits < grouped v.digits := by
        show (String.ofList _).toList < (String.ofList _).toList ↔ _
        rw [String.toList_ofList, String.toList_ofList]
    _ ↔ u.digits < v.digits := grouped_lt_grouped (length u) (length v)
    _ ↔ u < v := hexDigits_lt_iff u.value_lt v.value_lt

end Uuid

/-! ## Names of aggregates and of messages -/

namespace Identity

/-- **A kind of names agrees with its texts**: `toText` displays a name and `parse` reads one. -/
structure TextsAgree {ι : Type} [LT ι] (toText : ι → String)
    (parse : String → Except DomainError ι) : Prop where
  /-- the texts that are read as a name are its spellings, with letters of either case -/
  spelled : ∀ (s : String) (id : ι), parse s = .ok id ↔
    ∃ form : Uuid.Form, Uuid.SameLetters s.toList (form.spell (toText id).toList)
  /-- no two names are displayed alike -/
  distinct : ∀ a b : ι, toText a = toText b → a = b
  /-- names are ordered like their texts, character by character -/
  ordered : ∀ a b : ι, a < b ↔ toText a < toText b

/-- Names that wrap an identifier agree with its texts. -/
theorem TextsAgree.of_uuid {ι : Type} [LT ι] {toText : ι → String}
    {parse : String → Except DomainError ι} (uuid : ι → Uuid)
    (wraps : ∀ a b, uuid a = uuid b → a = b) (shows : ∀ id, toText id = (uuid id).toText)
    (reads : ∀ s id, parse s = .ok id ↔ Uuid.parse s = .ok (uuid id))
    (orders : ∀ a b, a < b ↔ uuid a < uuid b) : TextsAgree toText parse where
  spelled s id := by
    rw [reads, shows]
    exact Uuid.parse_eq_ok_iff
  distinct a b same := by
    rw [shows, shows] at same
    exact wraps a b (Uuid.toText_injective same)
  ordered a b := by
    rw [orders, shows, shows]
    exact Uuid.toText_lt_toText.symm

/-- **Names and their texts agree**, for aggregates and for messages. -/
theorem texts_agree : TextsAgree AggregateId.toText AggregateId.parse ∧
    TextsAgree MessageId.toText MessageId.parse := by
  constructor
  · refine TextsAgree.of_uuid AggregateId.uuid ?_ (fun _ => rfl) ?_ (fun _ _ => Iff.rfl)
    · rintro ⟨a⟩ ⟨b⟩ rfl
      rfl
    · rintro s ⟨u⟩
      rw [AggregateId.parse]
      cases Uuid.parse s <;> simp
  · refine TextsAgree.of_uuid MessageId.uuid ?_ (fun _ => rfl) ?_ (fun _ _ => Iff.rfl)
    · rintro ⟨a⟩ ⟨b⟩ rfl
      rfl
    · rintro s ⟨u⟩
      rw [MessageId.parse]
      cases Uuid.parse s <;> simp

end Identity

end MaintenanceOutbox
