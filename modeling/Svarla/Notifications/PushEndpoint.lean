import Mathlib.Data.List.Infix
import Svarla.Lib.Separated

/-!
# The URLs of push endpoints

The server sends push messages to a URL that the client gives, and `validatePushEndpointUrl` is there
to keep it from hosts of the network it is in itself. It resolves the host name, and looks at the texts
of the addresses.

An IPv4 address has one text, but an IPv6 address has many. What is recognised by its text
(`Recognised`) is any unique local address, a link-local one that begins with fe80, and two of the texts
of the loopback and the unspecified address; an IPv4-mapped address is not recognised at all. So
the addresses of a host that is accepted are all outside of the network exactly if none is in it, or one
is recognised (`guarded_iff`).
-/

namespace Svarla.Notifications

open Svarla.Lib

/-! ## Addresses and their texts -/

/-- An IPv4 address. -/
structure IPv4 where
  a : Fin 256
  b : Fin 256
  c : Fin 256
  d : Fin 256
  deriving DecidableEq, Repr

/-- The text of an octet. -/
def octet (n : Fin 256) : List Char := (n.val.repr).toList

/-- The text of an IPv4 address. -/
def IPv4.text (ip : IPv4) : List Char :=
  octet ip.a ++ '.' :: (octet ip.b ++ '.' :: (octet ip.c ++ '.' :: octet ip.d))

/-- Loopback, private, link-local and unspecified addresses. -/
def IPv4.Internal (ip : IPv4) : Prop :=
  ip.a = 127 ∨ ip.a = 10 ∨ (ip.a = 172 ∧ 16 ≤ ip.b ∧ ip.b ≤ 31) ∨ (ip.a = 192 ∧ ip.b = 168) ∨
    (ip.a = 169 ∧ ip.b = 254) ∨ ip = ⟨0, 0, 0, 0⟩

instance (ip : IPv4) : Decidable ip.Internal := inferInstanceAs (Decidable (_ ∨ _))

/-- The last two groups of an IPv6 address with an IPv4 address in it. -/
def IPv4.groups (ip : IPv4) : List Nat := [256 * ip.a + ip.b, 256 * ip.c + ip.d]

def hexDigits : List Char := "0123456789abcdef".toList

/-- The value of a hexadecimal digit. -/
def digitOf (c : Char) : Nat := hexDigits.idxOf c.toLower

def hexValue (s : List Char) : Nat := s.foldl (fun n c => 16 * n + digitOf c) 0

/-- A text of a group of an IPv6 address. -/
structure GroupText (s : List Char) (g : Nat) : Prop where
  pos : 1 ≤ s.length
  le : s.length ≤ 4
  hex : ∀ c ∈ s, c.toLower ∈ hexDigits
  value : hexValue s = g

/-- Groups, one after the other. -/
inductive GroupsText : List Char → List Nat → Prop
  | one {s : List Char} {g : Nat} (h : GroupText s g) : GroupsText s [g]
  | cons {s rest : List Char} {g : Nat} {gs : List Nat} (h : GroupText s g)
      (hrest : GroupsText rest gs) : GroupsText (s ++ ':' :: rest) (g :: gs)

/-- Groups at the end, where the last two may be an IPv4 address. -/
inductive EndText : List Char → List Nat → Prop
  | quad (ip : IPv4) : EndText ip.text ip.groups
  | one {s : List Char} {g : Nat} (h : GroupText s g) : EndText s [g]
  | cons {s rest : List Char} {g : Nat} {gs : List Nat} (h : GroupText s g)
      (hrest : EndText rest gs) : EndText (s ++ ':' :: rest) (g :: gs)

/-- The texts of an IPv6 address, by its groups. -/
inductive IPv6Text : List Char → List Nat → Prop
  | full {s : List Char} {gs : List Nat} (h : EndText s gs) (hlength : gs.length = 8) : IPv6Text s gs
  /-- One group or more that are 0 are left out. -/
  | compressed {s s' : List Char} {gs gs' : List Nat} {n : Nat}
      (h : s = [] ∧ gs = [] ∨ GroupsText s gs) (h' : s' = [] ∧ gs' = [] ∨ EndText s' gs')
      (hpos : 0 < n) (hlength : gs.length + n + gs'.length = 8) :
      IPv6Text (s ++ ':' :: ':' :: s') (gs ++ List.replicate n 0 ++ gs')
  /-- With a zone. -/
  | zone {s z : List Char} {gs : List Nat} (h : IPv6Text s gs) : IPv6Text (s ++ '%' :: z) gs

/-- Loopback, unspecified, unique local and link-local addresses, and IPv4 addresses of this kind. -/
def InternalGroups (gs : List Nat) : Prop :=
  gs = [0, 0, 0, 0, 0, 0, 0, 1] ∨ gs = [0, 0, 0, 0, 0, 0, 0, 0] ∨
    (∃ g ∈ gs.head?, 0xfc00 ≤ g ∧ g ≤ 0xfdff) ∨ (∃ g ∈ gs.head?, 0xfe80 ≤ g ∧ g ≤ 0xfebf) ∨
      ∃ ip : IPv4, ip.Internal ∧ gs = [0, 0, 0, 0, 0, 0xffff] ++ ip.groups

/-- An address that a host name is resolved to. -/
inductive Address
  | v4 (ip : IPv4)
  | v6 (text : List Char) (groups : List Nat) (h : IPv6Text text groups)

namespace Address

/-- `address` of an entry of the resolver. -/
def text : Address → List Char
  | v4 ip => ip.text
  | v6 text _ _ => text

/-- The network that the server is in itself. -/
def Internal : Address → Prop
  | v4 ip => ip.Internal
  | v6 _ groups _ => InternalGroups groups

end Address

/-! ## The validator -/

def lower (s : List Char) : List Char := s.map Char.toLower

/-- `BLOCKED_IPV4_RANGES`. -/
def blockedIPv4Ranges : List String := ["127.", "10.", "192.168.", "169.254.", "0."]

/-- `parseInt`, with 10 for the radix. -/
def parseInt (s : List Char) : Option Int :=
  let s := s.dropWhile Char.isWhitespace
  let (negative, s) :=
    match s with
    | '-' :: s => (true, s)
    | '+' :: s => (false, s)
    | s => (false, s)
  let digits := s.takeWhile Char.isDigit
  if digits = [] then none
  else
    let n : Nat := digits.foldl (fun n c => 10 * n + (c.toNat - 48)) 0
    some (if negative then -n else n)

/-- `isPrivate172`. -/
def isPrivate172 (ip : List Char) : Bool :=
  if ip.takeWhile (· ≠ '.') ≠ "172".toList then false
  else
    match ip.dropWhile (· ≠ '.') with
    | [] => false
    | _ :: rest =>
      match parseInt (rest.takeWhile (· ≠ '.')) with
      | none => false
      | some second => 16 ≤ second && second ≤ 31

/-- The texts that `isBlockedIPv6` compares with. -/
def knownTexts : List (List Char) :=
  ["::1", "0000:0000:0000:0000:0000:0000:0000:0001", "::",
    "0000:0000:0000:0000:0000:0000:0000:0000"].map String.toList

/-- `isBlockedIPv6`. -/
def isBlockedIPv6 (ip : List Char) : Bool :=
  let normalized := lower ip
  knownTexts.contains normalized || "fe80:".toList.isPrefixOf normalized ||
    "fe80".toList.isPrefixOf normalized || "fc".toList.isPrefixOf normalized ||
      "fd".toList.isPrefixOf normalized

/-- `isPrivateIP`. -/
def isPrivateIP (ip : List Char) : Bool :=
  if ':' ∈ ip then isBlockedIPv6 ip
  else blockedIPv4Ranges.any (fun range => range.toList.isPrefixOf ip) || isPrivate172 ip

/-- A URL, as far as it is looked at. -/
structure ParsedURL where
  protocol : String
  hostname : List Char

/-- The URL parser and the resolver, either of which may fail. -/
structure Resolver where
  parseURL : String → Option ParsedURL
  lookup : List Char → Option (List Address)

/-- `validatePushEndpointUrl`. -/
def validatePushEndpointUrl (R : Resolver) (url : String) (skipSsrfProtection : Bool) :
    Except String Unit :=
  match R.parseURL url with
  | none => .error "Invalid URL format"
  | some parsed =>
    if parsed.protocol ≠ "https:" ∧ parsed.protocol ≠ "http:" then
      .error "Push endpoint URL must use HTTP or HTTPS"
    else if skipSsrfProtection then .ok ()
    else if parsed.protocol ≠ "https:" then
      .error "Push endpoint URL must use HTTPS (set PUSH_ENDPOINT_SSRF_PROTECTION=false to allow HTTP for private LAN setups)"
    else
      let hostname := lower parsed.hostname
      if (["localhost", "127.0.0.1", "::1", "[::1]"].map String.toList).contains hostname ∨
          ".local".toList <:+ hostname ∨ ".internal".toList <:+ hostname then
        .error "Push endpoint URL must not target localhost or internal hosts"
      else
        match R.lookup hostname with
        | none => .error "Push endpoint URL hostname could not be resolved"
        | some result =>
          if result.any fun entry => isPrivateIP entry.text then
            .error "Push endpoint URL resolves to a private/reserved IP address"
          else .ok ()

/-! ## IPv4 -/

theorem isDigit_octet (n : Fin 256) (c : Char) (hc : c ∈ octet n) : c.isDigit = true := by
  rw [octet, Nat.toList_repr] at hc
  exact Nat.isDigit_of_mem_toDigits (by decide) (by decide) hc

theorem parseInt_octet : ∀ n : Fin 256, parseInt (octet n) = some (n.val : Int) := by decide +kernel

theorem takeWhile_octet (n : Fin 256) (rest : List Char) :
    (octet n ++ '.' :: rest).takeWhile (· ≠ '.') = octet n := by
  rw [List.takeWhile_append_of_pos fun c hc => ?_, List.takeWhile_cons_of_neg (by simp), List.append_nil]
  have hdigit := isDigit_octet n c hc
  simp only [ne_eq, decide_eq_true_eq]
  rintro rfl
  cases hdigit

theorem dropWhile_octet (n : Fin 256) (rest : List Char) :
    (octet n ++ '.' :: rest).dropWhile (· ≠ '.') = '.' :: rest := by
  rw [List.dropWhile_append_of_pos fun c hc => ?_, List.dropWhile_cons_of_neg (by simp)]
  have hdigit := isDigit_octet n c hc
  simp only [ne_eq, decide_eq_true_eq]
  rintro rfl
  cases hdigit

/-- The text of an IPv4 address has no colons. -/
theorem not_mem_text (ip : IPv4) : ':' ∉ ip.text := by
  have hoctet : ∀ n, ':' ∉ octet n := fun n hmem => absurd (isDigit_octet n _ hmem) (by decide)
  simp only [IPv4.text, List.mem_append, List.mem_cons, hoctet, false_or, not_or]
  decide

theorem isPrivate172_text (ip : IPv4) :
    isPrivate172 ip.text = true ↔ ip.a = 172 ∧ 16 ≤ ip.b ∧ ip.b ≤ 31 := by
  have h172 : octet ip.a ≠ "172".toList ↔ ip.a ≠ 172 := by
    refine not_congr ⟨fun htext => ?_, fun ha => by rw [ha]; rfl⟩
    have hvalue := parseInt_octet ip.a
    rw [htext] at hvalue
    exact Fin.ext (Int.natCast_inj.mp (Option.some.inj hvalue)).symm
  simp only [isPrivate172, IPv4.text, takeWhile_octet, dropWhile_octet, parseInt_octet, h172]
  by_cases ha : ip.a = 172
  · simp only [ha, ne_eq, not_true_eq_false, if_false, Bool.and_eq_true, decide_eq_true_eq, true_and,
      Fin.le_def]
    have h16 : (16 : Fin 256).val = 16 := rfl
    have h31 : (31 : Fin 256).val = 31 := rfl
    omega
  · simp only [ha, ne_eq, not_false_eq_true, if_true, false_and, Bool.false_eq_true]

/-- An IPv4 address of the network is taken for one. -/
theorem isPrivateIP_text {ip : IPv4} (h : ip.Internal) : isPrivateIP ip.text = true := by
  rw [isPrivateIP, if_neg (not_mem_text ip), Bool.or_eq_true]
  have hrange : ∀ range ∈ blockedIPv4Ranges, (∃ rest, ip.text = range.toList ++ rest) →
      blockedIPv4Ranges.any (fun range => range.toList.isPrefixOf ip.text) = true := by
    rintro range hmem ⟨rest, hrest⟩
    refine List.any_eq_true.mpr ⟨range, hmem, ?_⟩
    rw [hrest]
    exact List.isPrefixOf_iff_prefix.mpr (List.prefix_append ..)
  obtain h | h | h | h | h | h := h
  · refine .inl (hrange "127." (by decide) ⟨octet ip.b ++ '.' :: (octet ip.c ++ '.' :: octet ip.d), ?_⟩)
    rw [IPv4.text, h]
    rfl
  · refine .inl (hrange "10." (by decide) ⟨octet ip.b ++ '.' :: (octet ip.c ++ '.' :: octet ip.d), ?_⟩)
    rw [IPv4.text, h]
    rfl
  · exact .inr ((isPrivate172_text ip).mpr h)
  · refine .inl (hrange "192.168." (by decide) ⟨octet ip.c ++ '.' :: octet ip.d, ?_⟩)
    rw [IPv4.text, h.1, h.2]
    rfl
  · refine .inl (hrange "169.254." (by decide) ⟨octet ip.c ++ '.' :: octet ip.d, ?_⟩)
    rw [IPv4.text, h.1, h.2]
    rfl
  · refine .inl (hrange "0." (by decide) ⟨"0.0.0".toList, ?_⟩)
    rw [IPv4.text, h]
    rfl

/-! ## IPv6 -/

/-- The digit of a value. -/
def hexChar (n : Nat) : Char := hexDigits.getD n '0'

theorem toLower_eq {c : Char} (h : c.toLower ∈ hexDigits) : c.toLower = hexChar (digitOf c) := by
  have hlt : hexDigits.idxOf c.toLower < hexDigits.length := List.idxOf_lt_length_of_mem h
  rw [hexChar, digitOf, List.getD_eq_getElem _ _ hlt, List.getElem_idxOf]

theorem digitOf_lt {c : Char} (h : c.toLower ∈ hexDigits) : digitOf c < 16 :=
  List.idxOf_lt_length_of_mem h

/-- A group from 1000 on has four digits. -/
theorem GroupText.digits {s : List Char} {g : Nat} (h : GroupText s g) (hg : 0x1000 ≤ g) :
    g < 0x10000 ∧ lower s =
      [hexChar (g / 0x1000), hexChar (g / 0x100 % 16), hexChar (g / 0x10 % 16), hexChar (g % 16)] := by
  obtain ⟨hpos, hle, hhex, hvalue⟩ := h
  have hlt : ∀ c ∈ s, digitOf c < 16 := fun c hc => digitOf_lt (hhex c hc)
  match s with
  | [a] =>
    have := hlt a (by simp)
    simp only [hexValue, List.foldl_cons, List.foldl_nil] at hvalue
    omega
  | [a, b] =>
    have := hlt a (by simp)
    have := hlt b (by simp)
    simp only [hexValue, List.foldl_cons, List.foldl_nil] at hvalue
    omega
  | [a, b, c] =>
    have := hlt a (by simp)
    have := hlt b (by simp)
    have := hlt c (by simp)
    simp only [hexValue, List.foldl_cons, List.foldl_nil] at hvalue
    omega
  | [a, b, c, d] =>
    have ha := hlt a (by simp)
    have hb := hlt b (by simp)
    have hc := hlt c (by simp)
    have hd := hlt d (by simp)
    simp only [hexValue, List.foldl_cons, List.foldl_nil] at hvalue
    have h0 : g / 0x1000 = digitOf a := by omega
    have h1 : g / 0x100 % 16 = digitOf b := by omega
    have h2 : g / 0x10 % 16 = digitOf c := by omega
    have h3 : g % 16 = digitOf d := by omega
    refine ⟨by omega, ?_⟩
    rw [h0, h1, h2, h3, ← toLower_eq (hhex a (by simp)), ← toLower_eq (hhex b (by simp)),
      ← toLower_eq (hhex c (by simp)), ← toLower_eq (hhex d (by simp))]
    rfl
  | [] => simp at hpos
  | _ :: _ :: _ :: _ :: _ :: _ =>
    simp only [List.length_cons] at hle
    omega

/-- The digits of 0 are 0. -/
theorem GroupText.zero {s : List Char} (h : GroupText s 0) : (lower s).head? = some '0' := by
  obtain ⟨hpos, -, hhex, hvalue⟩ := h
  match s with
  | c :: s =>
    have hmono : ∀ (s : List Char) (n : Nat), n ≤ s.foldl (fun n c => 16 * n + digitOf c) n := by
      intro s
      induction s with
      | nil => exact fun n => le_rfl
      | cons d s ih =>
        intro n
        have hstep : n ≤ 16 * n + digitOf d := by omega
        exact le_trans hstep (ih _)
    have hzero : digitOf c = 0 := by
      have := hmono s (16 * 0 + digitOf c)
      rw [hexValue, List.foldl_cons] at hvalue
      omega
    rw [lower, List.map_cons, List.head?_cons, toLower_eq (hhex c (by simp)), hzero]
    rfl

/-- A text begins with its first group, or with the colons that stand for it. -/
def BeginsWith (text : List Char) (gs : List Nat) : Prop :=
  (∃ rest, text = ':' :: rest ∧ gs.head? = some 0) ∨
    ∃ s g rest, text = s ++ ':' :: rest ∧ GroupText s g ∧ gs.head? = some g

theorem GroupsText.beginsWith {s s' : List Char} {gs gs' : List Nat} (h : GroupsText s gs) :
    BeginsWith (s ++ ':' :: s') (gs ++ gs') := by
  cases h with
  | one h => exact .inr ⟨_, _, _, rfl, h, rfl⟩
  | cons h hrest => exact .inr ⟨_, _, _, by rw [List.append_assoc, List.cons_append], h, rfl⟩

theorem IPv6Text.beginsWith {text : List Char} {gs : List Nat} (h : IPv6Text text gs) :
    BeginsWith text gs := by
  induction h with
  | full h hlength =>
    cases h with
    | quad ip => cases hlength
    | one h => cases hlength
    | cons h hrest => exact .inr ⟨_, _, _, rfl, h, rfl⟩
  | @compressed s s' gs gs' n h h' hpos hlength =>
    obtain ⟨rfl, rfl⟩ | h := h
    · obtain ⟨n, rfl⟩ := Nat.exists_eq_succ_of_ne_zero hpos.ne'
      exact .inl ⟨_, rfl, rfl⟩
    · rw [List.append_assoc]
      exact h.beginsWith
  | zone h ih =>
    obtain ⟨rest, rfl, hhead⟩ | ⟨s, g, rest, rfl, hgroup, hhead⟩ := ih
    · exact .inl ⟨_, rfl, hhead⟩
    · exact .inr ⟨s, g, _, by rw [List.append_assoc, List.cons_append], hgroup, hhead⟩

theorem BeginsWith.mem {text : List Char} {gs : List Nat} (h : BeginsWith text gs) : ':' ∈ text := by
  obtain ⟨rest, rfl, -⟩ | ⟨s, g, rest, rfl, -⟩ := h <;> simp

/-! ## What is recognised -/

theorem hexChar_inj {m n : Nat} (hm : m < 16) (hn : n < 16) : hexChar m = hexChar n ↔ m = n := by
  have hnodup : hexDigits.Nodup := by decide +kernel
  have hlength : hexDigits.length = 16 := rfl
  rw [hexChar, hexChar, List.getD_eq_getElem _ _ (by omega), List.getD_eq_getElem _ _ (by omega),
    hnodup.getElem_inj_iff]

/-- A text with a first group of four digits begins with them. -/
theorem lower_of_group {s rest : List Char} {g : Nat} (h : GroupText s g) (hg : 0x1000 ≤ g) :
    lower (s ++ ':' :: rest) = hexChar (g / 0x1000) :: hexChar (g / 0x100 % 16) ::
      hexChar (g / 0x10 % 16) :: hexChar (g % 16) :: ':' :: lower rest := by
  have hdigits := (h.digits hg).2
  rw [lower, List.map_append, ← lower, hdigits]
  rfl

/-- Any unique local address. -/
theorem isBlocked_of_uniqueLocal {text : List Char} {gs : List Nat} {g : Nat} (h : BeginsWith text gs)
    (hhead : gs.head? = some g) (hg : 0xfc00 ≤ g ∧ g ≤ 0xfdff) : isBlockedIPv6 text = true := by
  obtain ⟨rest, rfl, hzero⟩ | ⟨s, g', rest, rfl, hgroup, hfirst⟩ := h
  · cases hhead.symm.trans hzero
    omega
  · cases hhead.symm.trans hfirst
    have h0 : g / 0x1000 = 15 := by omega
    have h1 : g / 0x100 % 16 = 12 ∨ g / 0x100 % 16 = 13 := by omega
    rw [isBlockedIPv6, lower_of_group hgroup (by omega), h0]
    simp only [Bool.or_eq_true, List.isPrefixOf_iff_prefix]
    obtain h1 | h1 := h1 <;> rw [h1]
    · exact .inl (.inr ⟨_, rfl⟩)
    · exact .inr ⟨_, rfl⟩

/-- A link-local address that begins with fe80. -/
theorem isBlocked_iff_of_linkLocal {text : List Char} {gs : List Nat} {g : Nat}
    (h : BeginsWith text gs) (hhead : gs.head? = some g) (hg : 0xfe80 ≤ g ∧ g ≤ 0xfebf) :
    isBlockedIPv6 text = true ↔ g = 0xfe80 ∨ lower text ∈ knownTexts := by
  obtain ⟨rest, rfl, hzero⟩ | ⟨s, g', rest, rfl, hgroup, hfirst⟩ := h
  · cases hhead.symm.trans hzero
    omega
  · cases hhead.symm.trans hfirst
    have h0 : g / 0x1000 = 15 := by omega
    have h1 : g / 0x100 % 16 = 14 := by omega
    have hf : hexChar 15 = 'f' := rfl
    have he : hexChar 14 = 'e' := rfl
    have h8 : hexChar 8 = '8' := rfl
    have hzero : hexChar 0 = '0' := rfl
    have hfe80 : '8' = hexChar (g / 0x10 % 16) ∧ '0' = hexChar (g % 16) ↔ g = 0xfe80 := by
      rw [← h8, ← hzero, hexChar_inj (by omega) (by omega), hexChar_inj (by omega) (by omega)]
      omega
    have hlower : lower (s ++ ':' :: rest) = _ := lower_of_group hgroup (by omega)
    rw [h0, h1, hf, he] at hlower
    have hprefix : ∀ tail : List Char, tail <+: [':'] →
        ('f' :: 'e' :: '8' :: '0' :: tail <+: lower (s ++ ':' :: rest) ↔ g = 0xfe80) := by
      intro tail htail
      rw [hlower, ← hfe80]
      simp only [List.cons_prefix_cons, true_and]
      exact and_congr_right fun _ => and_iff_left (htail.trans ⟨_, rfl⟩)
    have hother : ∀ c : Char, c ≠ 'e' → ¬ ['f', c] <+: lower (s ++ ':' :: rest) := by
      intro c hc hprefix
      rw [hlower] at hprefix
      simp only [List.cons_prefix_cons, true_and] at hprefix
      exact hc hprefix.1
    have h5 : "fe80:".toList <+: lower (s ++ ':' :: rest) ↔ g = 0xfe80 := hprefix [':'] List.prefix_rfl
    have h4 : "fe80".toList <+: lower (s ++ ':' :: rest) ↔ g = 0xfe80 := hprefix [] List.nil_prefix
    have hfc : ¬ "fc".toList <+: lower (s ++ ':' :: rest) := hother 'c' (by decide)
    have hfd : ¬ "fd".toList <+: lower (s ++ ':' :: rest) := hother 'd' (by decide)
    simp only [isBlockedIPv6, Bool.or_eq_true, List.isPrefixOf_iff_prefix, List.contains_iff_mem, h5, h4,
      hfc, hfd, or_false]
    tauto

/-- Nothing else, but known texts. -/
theorem isBlocked_iff_of_zero {text : List Char} {gs : List Nat} (h : BeginsWith text gs)
    (hhead : gs.head? = some 0) : isBlockedIPv6 text = true ↔ lower text ∈ knownTexts := by
  have hfirst : ∀ c ∈ (lower text).head?, c ≠ 'f' := by
    obtain ⟨rest, rfl, -⟩ | ⟨s, g', rest, rfl, hgroup, hgs⟩ := h
    · rintro c hc rfl
      cases hc
    · cases hhead.symm.trans hgs
      rintro c hc rfl
      obtain ⟨c, s', hlower⟩ := List.exists_cons_of_ne_nil fun hnil : lower s = [] => by
        simpa [hnil] using hgroup.zero
      have hzero := hgroup.zero
      rw [lower, List.map_append, ← lower, hlower, List.cons_append, List.head?_cons] at hc
      rw [hlower, List.head?_cons] at hzero
      cases hzero.symm.trans hc
  have hnot : ∀ rest : List Char, ¬ ('f' :: rest) <+: lower text := by
    rintro rest ⟨tail, htail⟩
    exact hfirst 'f' (by rw [← htail]; rfl) rfl
  simp only [isBlockedIPv6, Bool.or_eq_true, List.isPrefixOf_iff_prefix, List.contains_iff_mem]
  have hfe80 : ¬ "fe80:".toList <+: lower text := hnot _
  have hfe80' : ¬ "fe80".toList <+: lower text := hnot _
  have hfc : ¬ "fc".toList <+: lower text := hnot _
  have hfd : ¬ "fd".toList <+: lower text := hnot _
  tauto

namespace Address

/-- An address of the network that is recognised: IPv4; unique local; link-local, with fe80 for the first
group; or a known text. -/
def Recognised : Address → Prop
  | v4 _ => True
  | v6 text groups _ =>
    (∃ g ∈ groups.head?, 0xfc00 ≤ g ∧ g ≤ 0xfdff) ∨ groups.head? = some 0xfe80 ∨ lower text ∈ knownTexts

/-- **What is recognised.** -/
theorem isPrivateIP_iff {e : Address} (h : e.Internal) : isPrivateIP e.text = true ↔ e.Recognised := by
  cases e with
  | v4 ip => exact iff_of_true (isPrivateIP_text h) trivial
  | v6 text groups htext =>
    have hbegins := htext.beginsWith
    rw [isPrivateIP, Address.text, if_pos hbegins.mem]
    have hzero : groups.head? = some 0 →
        (isBlockedIPv6 text = true ↔ Recognised (.v6 text groups htext)) := by
      intro hhead
      rw [isBlocked_iff_of_zero hbegins hhead]
      simp [Recognised, hhead]
    obtain rfl | rfl | ⟨g, hg, hrange⟩ | ⟨g, hg, hrange⟩ | ⟨ip, -, rfl⟩ := h
    · exact hzero rfl
    · exact hzero rfl
    · exact iff_of_true (isBlocked_of_uniqueLocal hbegins hg hrange) (.inl ⟨g, hg, hrange⟩)
    · have hhead : groups.head? = some g := hg
      have hnot : ¬ (0xfc00 ≤ g ∧ g ≤ 0xfdff) := by omega
      rw [isBlocked_iff_of_linkLocal hbegins hhead hrange]
      simp only [Recognised, hhead, Option.mem_some_iff, exists_eq_left', Option.some.injEq, hnot,
        false_or]
    · exact hzero rfl

/-- An address that the validator takes for one of the network. -/
def TakenForInternal (e : Address) : Prop :=
  e.Internal ∧ e.Recognised ∨ ¬ e.Internal ∧ isPrivateIP e.text = true

theorem isPrivateIP_iff_taken {e : Address} : isPrivateIP e.text = true ↔ e.TakenForInternal := by
  by_cases h : e.Internal
  · simp [TakenForInternal, h, isPrivateIP_iff h]
  · simp [TakenForInternal, h]

end Address

/-! ## Accepted URLs -/

/-- No host of an accepted URL has an address of the network. -/
def Guarded (R : Resolver) (url : String) (skipSsrfProtection : Bool) : Prop :=
  validatePushEndpointUrl R url skipSsrfProtection = .ok () →
    ∀ parsed, R.parseURL url = some parsed →
      ∀ addresses, R.lookup (lower parsed.hostname) = some addresses → ∀ e ∈ addresses, ¬ e.Internal

/-- The scheme and the host name are not refused. -/
def Plausible (parsed : ParsedURL) (skipSsrfProtection : Bool) : Prop :=
  if skipSsrfProtection then parsed.protocol = "https:" ∨ parsed.protocol = "http:"
  else
    parsed.protocol = "https:" ∧
      lower parsed.hostname ∉ ["localhost", "127.0.0.1", "::1", "[::1]"].map String.toList ∧
        ¬ ".local".toList <:+ lower parsed.hostname ∧ ¬ ".internal".toList <:+ lower parsed.hostname

/-- When a URL with addresses is accepted. -/
theorem validate_ok_iff {R : Resolver} {url : String} {skipSsrfProtection : Bool} {parsed : ParsedURL}
    {addresses : List Address} (hparsed : R.parseURL url = some parsed)
    (haddresses : R.lookup (lower parsed.hostname) = some addresses) :
    validatePushEndpointUrl R url skipSsrfProtection = .ok () ↔
      Plausible parsed skipSsrfProtection ∧
        (skipSsrfProtection = true ∨ ∀ e ∈ addresses, ¬ e.TakenForInternal) := by
  have htaken : (addresses.any fun e => isPrivateIP e.text) = true ↔
      ∃ e ∈ addresses, e.TakenForInternal := by
    simp only [List.any_eq_true, Address.isPrivateIP_iff_taken]
  simp only [validatePushEndpointUrl, hparsed, haddresses, Plausible]
  cases skipSsrfProtection with
  | true =>
    by_cases hscheme : parsed.protocol ≠ "https:" ∧ parsed.protocol ≠ "http:"
    · simp [hscheme]
    · simp only [if_neg hscheme, if_true]
      tauto
  | false =>
    by_cases hhttps : parsed.protocol = "https:"
    · by_cases hhost :
          (["localhost", "127.0.0.1", "::1", "[::1]"].map String.toList).contains (lower parsed.hostname) ∨
            ".local".toList <:+ lower parsed.hostname ∨ ".internal".toList <:+ lower parsed.hostname
      · simp only [hhttps, ne_eq, not_true_eq_false, false_and, if_false, Bool.false_eq_true,
          if_pos hhost]
        refine iff_of_false (fun h => nomatch h) ?_
        rw [List.contains_iff_mem] at hhost
        tauto
      · simp only [hhttps, ne_eq, not_true_eq_false, false_and, if_false, Bool.false_eq_true,
          if_neg hhost, false_or, true_and]
        by_cases hany : ∃ e ∈ addresses, e.TakenForInternal
        · rw [if_pos (htaken.mpr hany)]
          refine iff_of_false (fun h => nomatch h) fun h => ?_
          obtain ⟨e, hmem, he⟩ := hany
          exact h.2 e hmem he
        · rw [if_neg (mt htaken.mp hany)]
          rw [List.contains_iff_mem] at hhost
          refine iff_of_true rfl ⟨by tauto, fun e hmem he => hany ⟨e, hmem, he⟩⟩
    · have hnot : ¬ Plausible parsed false := fun h => hhttps h.1
      simp only [Bool.false_eq_true, if_false, hhttps, false_and, iff_false]
      split
      · exact fun h => nomatch h
      · exact fun h => nomatch h

/-- **The guard.** -/
theorem guarded_iff (R : Resolver) (url : String) (skipSsrfProtection : Bool) :
    Guarded R url skipSsrfProtection ↔
      ∀ parsed, R.parseURL url = some parsed → Plausible parsed skipSsrfProtection →
        ∀ addresses, R.lookup (lower parsed.hostname) = some addresses →
          (∀ e ∈ addresses, ¬ e.Internal) ∨
            skipSsrfProtection = false ∧ ∃ e ∈ addresses, e.TakenForInternal := by
  constructor
  · intro hguarded parsed hparsed hallowed addresses haddresses
    by_cases hok : validatePushEndpointUrl R url skipSsrfProtection = .ok ()
    · exact .inl (hguarded hok parsed hparsed addresses haddresses)
    · rw [validate_ok_iff hparsed haddresses] at hok
      refine .inr ?_
      simp only [hallowed, true_and, not_or, Bool.not_eq_true, not_forall, not_not] at hok
      exact ⟨hok.1, hok.2.imp fun e ⟨hmem, he⟩ => ⟨hmem, he⟩⟩
  · intro hcondition hok parsed hparsed addresses haddresses
    obtain ⟨hallowed, hnone⟩ := (validate_ok_iff hparsed haddresses).mp hok
    obtain h | ⟨hskip, e, hmem, he⟩ := hcondition parsed hparsed hallowed addresses haddresses
    · exact h
    · rw [hskip] at hnone
      exact absurd he ((hnone.resolve_left (by decide)) e hmem)

theorem groupText_ffff : GroupText "ffff".toList 0xffff where
  pos := by decide
  le := by decide
  hex := by
    intro c hc
    rw [List.eq_of_mem_replicate (n := 4) hc]
    decide
  value := rfl

/-- ::ffff:127.0.0.1, which is the loopback address. -/
def mappedLoopback : Address :=
  .v6 "::ffff:127.0.0.1".toList [0, 0, 0, 0, 0, 0xffff, 0x7f00, 1] <|
    @IPv6Text.compressed [] _ [] _ 5 (.inl ⟨rfl, rfl⟩)
      (.inr (.cons groupText_ffff (.quad ⟨127, 0, 0, 1⟩)))
      (by decide) rfl

/-- A host with this address is accepted. -/
theorem loopback_accepted :
    ¬ Guarded ⟨fun _ => some ⟨"https:", "push.example".toList⟩, fun _ => some [mappedLoopback]⟩
      "https://push.example/" false := by
  intro h
  refine h (by decide +kernel) _ rfl _ rfl mappedLoopback (List.mem_singleton_self _) ?_
  exact .inr (.inr (.inr (.inr ⟨⟨127, 0, 0, 1⟩, by decide, rfl⟩)))

end Svarla.Notifications
