import NymVpn.Net.Addr
import NymVpn.Text.Numeral

/-!
# Addresses as text

The textual forms are those of the standard library, `::` for the first longest run of zero
groups included. Reading accepts every such form, and is inverse to printing.
-/

namespace Net

open Text

/-! ## IPv4 -/

def Ipv4Addr.display (ip : Ipv4Addr) : String :=
  decimal ip.a.toNat ++ "." ++ decimal ip.b.toNat ++ "." ++ decimal ip.c.toNat ++ "." ++
    decimal ip.d.toNat

def readOctet (cs : List Char) : Option UInt8 :=
  (readDigits 10 cs).bind fun n => if n < 256 then some (UInt8.ofNat n) else none

def readIpv4 (cs : List Char) : Option Ipv4Addr :=
  match cs.splitOn '.' with
  | [a, b, c, d] => do return ⟨← readOctet a, ← readOctet b, ← readOctet c, ← readOctet d⟩
  | _ => none

theorem readOctet_toDigits (a : UInt8) : readOctet (Nat.toDigits 10 a.toNat) = some a := by
  have hlt : a.toNat < 256 := a.toNat_lt
  simp [readOctet, readDigits_toDigits, hlt]

theorem dot_not_mem_toDigits (n : ℕ) : '.' ∉ Nat.toDigits 10 n :=
  not_mem_toDigits (by decide) (by decide) (by decide) n

theorem Ipv4Addr.toList_display (ip : Ipv4Addr) :
    ip.display.toList = Nat.toDigits 10 ip.a.toNat ++ '.' :: (Nat.toDigits 10 ip.b.toNat ++
      '.' :: (Nat.toDigits 10 ip.c.toNat ++ '.' :: Nat.toDigits 10 ip.d.toNat)) := by
  simp [Ipv4Addr.display, decimal]

theorem readIpv4_display (ip : Ipv4Addr) : readIpv4 ip.display.toList = some ip := by
  have hsplit (n : ℕ) : List.splitOn '.' (Nat.toDigits 10 n) = [Nat.toDigits 10 n] :=
    List.splitOn_eq_singleton (dot_not_mem_toDigits n)
  rw [readIpv4, ip.toList_display]
  simp only [List.splitOn_append_cons_self, hsplit]
  simp [readOctet_toDigits]

/-! ## IPv6 -/

structure Span where
  start : ℕ := 0
  len : ℕ := 0

def zeroSpan : List UInt16 → ℕ → Span → Span → Span
  | [], _, longest, _ => longest
  | s :: l, i, longest, current =>
    if s = 0 then
      let current : Span := if current.len = 0 then ⟨i, 1⟩ else ⟨current.start, current.len + 1⟩
      let longest := if current.len > longest.len then current else longest
      zeroSpan l (i + 1) longest current
    else zeroSpan l (i + 1) longest {}

def fmtSubslice (chunk : List UInt16) : String :=
  String.intercalate ":" (chunk.map fun s => hex s.toNat)

def Ipv6Addr.toIpv4Mapped (ip : Ipv6Addr) : Option Ipv4Addr :=
  match ip.segments with
  | [s0, s1, s2, s3, s4, s5, ab, cd] =>
    if [s0, s1, s2, s3, s4, s5] = [0, 0, 0, 0, 0, 0xffff] then
      some ⟨.ofNat (ab.toNat / 256), .ofNat (ab.toNat % 256), .ofNat (cd.toNat / 256),
        .ofNat (cd.toNat % 256)⟩
    else none
  | _ => none

def Ipv6Addr.display (ip : Ipv6Addr) : String :=
  match ip.toIpv4Mapped with
  | some ipv4 => "::ffff:" ++ ipv4.display
  | none =>
    let zeroes := zeroSpan ip.segments 0 {} {}
    if zeroes.len > 1 then
      fmtSubslice (ip.segments.take zeroes.start) ++ "::" ++
        fmtSubslice (ip.segments.drop (zeroes.start + zeroes.len))
    else fmtSubslice ip.segments

def splitDouble : List Char → Option (List Char × List Char)
  | [] => none
  | c :: cs =>
    match c, cs with
    | ':', ':' :: cs => some ([], cs)
    | c, cs => (splitDouble cs).map fun p => (c :: p.1, p.2)

def readGroup (cs : List Char) : Option (List UInt16) :=
  if '.' ∈ cs then
    (readIpv4 cs).map fun ip =>
      [.ofNat (ip.a.toNat * 256 + ip.b.toNat), .ofNat (ip.c.toNat * 256 + ip.d.toNat)]
  else (readDigits 16 cs).bind fun n => if n < 65536 then some [UInt16.ofNat n] else none

def readGroups (cs : List Char) : Option (List UInt16) :=
  if cs = [] then some [] else ((cs.splitOn ':').mapM readGroup).map List.flatten

def Ipv6Addr.ofSegments? (segments : List UInt16) : Option Ipv6Addr :=
  if h : segments.length = 8 then some ⟨segments, h⟩ else none

def readIpv6 (cs : List Char) : Option Ipv6Addr :=
  match splitDouble cs with
  | none => (readGroups cs).bind Ipv6Addr.ofSegments?
  | some (l, r) => do
    let a ← readGroups l
    let b ← readGroups r
    Ipv6Addr.ofSegments? (a ++ List.replicate (8 - (a.length + b.length)) 0 ++ b)

/-- What the loop knows after a prefix `l`: the longest run so far lies in `l`,
and the current run ends `l`. -/
structure SpanInv (l : List UInt16) (longest current : Span) : Prop where
  longest : ∃ a b, l = a ++ List.replicate longest.len 0 ++ b ∧ a.length = longest.start
  current : ∃ a, l = a ++ List.replicate current.len 0 ∧
    (current.len ≠ 0 → a.length = current.start)

theorem spanInv_nil : SpanInv [] {} {} :=
  ⟨⟨[], [], rfl, rfl⟩, ⟨[], rfl, fun h => absurd rfl h⟩⟩

variable {longest current : Span} {c : Char} {gs : List (List Char)} {l : List UInt16}
  {g : List Char}

theorem SpanInv.push_ne_zero {s : UInt16} (h : SpanInv l longest current) :
    SpanInv (l ++ [s]) longest {} := by
  obtain ⟨a, b, hl, ha⟩ := h.longest
  refine ⟨⟨a, b ++ [s], ?_, ha⟩, ⟨l ++ [s], by simp, fun h => absurd rfl h⟩⟩
  rw [hl]
  simp

theorem SpanInv.push_zero (h : SpanInv l longest current) : let current' : Span :=
      if current.len = 0 then ⟨l.length, 1⟩ else ⟨current.start, current.len + 1⟩
    SpanInv (l ++ [0]) (if current'.len > longest.len then current' else longest)
      current' := by
  intro current'
  have hcurrent : ∃ a, l ++ [0] = a ++ List.replicate current'.len 0 ∧
      a.length = current'.start := by
    by_cases hzero : current.len = 0
    · have hc : current' = ⟨l.length, 1⟩ := if_pos hzero
      exact ⟨l, by rw [hc]; rfl, by rw [hc]⟩
    · have hc : current' = ⟨current.start, current.len + 1⟩ := if_neg hzero
      obtain ⟨a, hl, ha⟩ := h.current
      refine ⟨a, ?_, by rw [hc]; exact ha hzero⟩
      rw [hc, hl, List.append_assoc, List.replicate_succ']
  obtain ⟨a, hl, ha⟩ := hcurrent
  refine ⟨?_, ⟨a, hl, fun _ => ha⟩⟩
  by_cases hlonger : current'.len > longest.len
  · rw [if_pos hlonger]
    exact ⟨a, [], by rw [hl]; simp, ha⟩
  · rw [if_neg hlonger]
    exact h.push_ne_zero.longest

theorem zeroSpan_spec (l m : List UInt16) (h : SpanInv l longest current) :
    ∃ a b, l ++ m = a ++ List.replicate (zeroSpan m l.length longest current).len 0 ++ b ∧
      a.length = (zeroSpan m l.length longest current).start := by
  induction m generalizing l longest current with
  | nil => simpa [zeroSpan] using h.longest
  | cons s m ih =>
    have hlen : l.length + 1 = (l ++ [s]).length := by simp
    have hassoc : l ++ s :: m = (l ++ [s]) ++ m := by simp
    rw [hassoc, zeroSpan]
    by_cases hs : s = 0
    · subst hs
      simp only [if_true]
      rw [hlen]
      exact ih (l ++ [0]) h.push_zero
    · simp only [if_neg hs]
      rw [hlen]
      exact ih (l ++ [s]) h.push_ne_zero

theorem segments_eq_of_zeroSpan (segments : List UInt16) :
    let z := zeroSpan segments 0 {} {}
    segments = segments.take z.start ++ List.replicate z.len 0 ++
      segments.drop (z.start + z.len) := by
  intro z
  obtain ⟨a, b, hl, ha⟩ := zeroSpan_spec [] segments spanInv_nil
  simp only [List.nil_append, List.length_nil] at hl ha
  have htake : segments.take z.start = a := by
    rw [hl, List.append_assoc, ← ha, List.take_left]
  have hdrop : segments.drop (z.start + z.len) = b := by
    have hlen : z.start + z.len = (a ++ List.replicate z.len 0).length := by
      simp [z, ha]
    rw [hlen, hl, List.drop_left]
  rw [htake, hdrop]
  exact hl

theorem splitDouble_double (cs : List Char) : splitDouble (':' :: ':' :: cs) = some ([], cs) :=
  rfl

theorem splitDouble_cons {cs : List Char} (h : c ≠ ':' ∨ cs.head? ≠ some ':') :
    splitDouble (c :: cs) = (splitDouble cs).map fun p => (c :: p.1, p.2) := by
  rw [splitDouble]
  rintro cs' rfl rfl
  simp at h

theorem splitDouble_append (hg : ':' ∉ g) (cs : List Char) :
    splitDouble (g ++ cs) = (splitDouble cs).map fun p => (g ++ p.1, p.2) := by
  induction g with
  | nil => simp
  | cons c g ih =>
    have hc : c ≠ ':' := fun h => hg (by simp [h])
    have hg' : ':' ∉ g := fun h => hg (by simp [h])
    rw [List.cons_append, splitDouble_cons (.inl hc), ih hg']
    cases splitDouble cs <;> rfl

def IsGroups (gs : List (List Char)) : Prop := ∀ g ∈ gs, g ≠ [] ∧ ':' ∉ g

theorem head?_groups_ne (h : IsGroups (g :: gs)) (cs : List Char) :
    (List.intercalate [':'] (g :: gs) ++ cs).head? ≠ some ':' := by
  obtain ⟨hne, hcolon⟩ := h g (by simp)
  cases g with
  | nil => exact absurd rfl hne
  | cons c g =>
    have hc : c ≠ ':' := fun h => hcolon (by simp [h])
    cases gs with
    | nil => simpa using hc
    | cons g' gs => simpa [List.intercalate_cons_cons] using hc

theorem splitDouble_groups (h : IsGroups gs) (cs : List Char) :
    splitDouble (List.intercalate [':'] gs ++ cs) =
      (splitDouble cs).map fun p => (List.intercalate [':'] gs ++ p.1, p.2) := by
  induction gs with
  | nil => simp
  | cons g gs ih =>
    have hcolon := (h g (by simp)).2
    have hgs : IsGroups gs := fun g' hg' => h g' (by simp [hg'])
    cases gs with
    | nil =>
      simp only [List.intercalate_singleton]
      exact splitDouble_append hcolon cs
    | cons g' gs =>
      rw [List.intercalate_cons_cons, List.append_assoc, List.append_assoc,
        splitDouble_append hcolon, List.singleton_append,
        splitDouble_cons (.inr (head?_groups_ne hgs cs)), ih hgs]
      cases splitDouble cs <;> simp

def groupTexts (chunk : List UInt16) : List (List Char) :=
  chunk.map fun s => Nat.toDigits 16 s.toNat

variable (chunk : List UInt16) (ip : Ipv6Addr) (p : IpPattern)

theorem toList_fmtSubslice :
    (fmtSubslice chunk).toList = List.intercalate [':'] (groupTexts chunk) := by
  simp [fmtSubslice, groupTexts, hex, Function.comp_def]

theorem isGroups_groupTexts : IsGroups (groupTexts chunk) := by
  intro g hg
  obtain ⟨s, -, rfl⟩ := List.mem_map.1 hg
  exact ⟨Nat.toDigits_ne_nil, not_mem_toDigits (by decide) (by decide) (by decide) _⟩

theorem readGroup_toDigits (s : UInt16) : readGroup (Nat.toDigits 16 s.toNat) = some [s] := by
  have hlt : s.toNat < 65536 := s.toNat_lt
  have hdot : '.' ∉ Nat.toDigits 16 s.toNat :=
    not_mem_toDigits (by decide) (by decide) (by decide) _
  simp [readGroup, hdot, readDigits_toDigits, hlt]

theorem mapM_readGroup_groupTexts :
    (groupTexts chunk).mapM readGroup = some (chunk.map fun s => [s]) := by
  rw [groupTexts, List.mapM_map]
  exact mapM_eq_map fun s _ => readGroup_toDigits s

theorem readGroups_fmtSubslice : readGroups (fmtSubslice chunk).toList = some chunk := by
  rw [toList_fmtSubslice]
  cases chunk with
  | nil => rfl
  | cons s chunk =>
    have hne : groupTexts (s :: chunk) ≠ [] := by simp [groupTexts]
    have hgroups := isGroups_groupTexts (s :: chunk)
    have htext : List.intercalate [':'] (groupTexts (s :: chunk)) ≠ [] := by
      intro h
      have hsplit := List.splitOn_intercalate ':' (fun g hg => (hgroups g hg).2) hne
      rw [h] at hsplit
      have hmem : Nat.toDigits 16 s.toNat ∈ groupTexts (s :: chunk) := by simp [groupTexts]
      rw [← hsplit, List.splitOn_nil, List.mem_singleton] at hmem
      exact Nat.toDigits_ne_nil hmem
    rw [readGroups, if_neg htext,
      List.splitOn_intercalate ':' (fun g hg => (hgroups g hg).2) hne,
      mapM_readGroup_groupTexts]
    simp [← List.flatMap_def]

theorem ofSegments?_segments : Ipv6Addr.ofSegments? ip.segments = some ip := by
  rw [Ipv6Addr.ofSegments?, dif_pos ip.length_segments]

theorem readGroup_display (ab cd : UInt16) :
    readGroup (Ipv4Addr.display ⟨.ofNat (ab.toNat / 256), .ofNat (ab.toNat % 256),
      .ofNat (cd.toNat / 256), .ofNat (cd.toNat % 256)⟩).toList = some [ab, cd] := by
  have hdot : '.' ∈ (Ipv4Addr.display ⟨.ofNat (ab.toNat / 256), .ofNat (ab.toNat % 256),
      .ofNat (cd.toNat / 256), .ofNat (cd.toNat % 256)⟩).toList := by
    rw [Ipv4Addr.toList_display]
    simp
  have hoctets (s : UInt16) : UInt16.ofNat ((UInt8.ofNat (s.toNat / 256)).toNat * 256 +
      (UInt8.ofNat (s.toNat % 256)).toNat) = s := by
    have hlt : s.toNat < 65536 := s.toNat_lt
    have hvalue : (UInt8.ofNat (s.toNat / 256)).toNat * 256 +
        (UInt8.ofNat (s.toNat % 256)).toNat = s.toNat := by
      simp only [UInt8.toNat_ofNat']
      omega
    rw [hvalue, UInt16.ofNat_toNat]
  rw [readGroup, if_pos hdot, readIpv4_display]
  simp only [Option.map_some, hoctets]

theorem not_mem_display_ipv4 (hdigit : digitValue c = none) (hdot : c ≠ '.') (ip : Ipv4Addr) :
    c ∉ ip.display.toList := by
  have hdigits (n : ℕ) : c ∉ Nat.toDigits 10 n :=
    not_mem_toDigits (by decide) (by decide) hdigit n
  rw [ip.toList_display]
  simp [hdigits, hdot]

theorem readIpv6_display_of_mapped {ip : Ipv6Addr} {ipv4 : Ipv4Addr}
    (h : ip.toIpv4Mapped = some ipv4) : readIpv6 ("::ffff:" ++ ipv4.display).toList = some ip := by
  have htext : ("::ffff:" ++ ipv4.display).toList =
      ':' :: ':' :: (['f', 'f', 'f', 'f'] ++ ':' :: ipv4.display.toList) := by simp
  have hpieces : (['f', 'f', 'f', 'f'] ++ ':' :: ipv4.display.toList).splitOn ':' =
      [['f', 'f', 'f', 'f'], ipv4.display.toList] := by
    rw [List.splitOn_append_cons_self,
      List.splitOn_eq_singleton (not_mem_display_ipv4 (by decide) (by decide) ipv4)]
    rfl
  have hffff : readGroup ['f', 'f', 'f', 'f'] = some [0xffff] := by decide
  obtain ⟨segments, hlen⟩ := ip
  match segments, hlen with
  | [s0, s1, s2, s3, s4, s5, ab, cd], hlen =>
    simp only [Ipv6Addr.toIpv4Mapped, Option.ite_none_right_eq_some, Option.some.injEq] at h
    obtain ⟨hzeros, rfl⟩ := h
    obtain ⟨rfl, rfl, rfl, rfl, rfl, rfl⟩ : s0 = 0 ∧ s1 = 0 ∧ s2 = 0 ∧ s3 = 0 ∧ s4 = 0 ∧
      s5 = 0xffff := by simpa using hzeros
    have hgroups : readGroups (['f', 'f', 'f', 'f'] ++ ':' :: (Ipv4Addr.display
        ⟨.ofNat (ab.toNat / 256), .ofNat (ab.toNat % 256), .ofNat (cd.toNat / 256),
          .ofNat (cd.toNat % 256)⟩).toList) = some [0xffff, ab, cd] := by
      rw [readGroups, if_neg (by simp), hpieces]
      simp [hffff, readGroup_display]
    rw [readIpv6, htext, splitDouble_double]
    simp only [hgroups]
    rfl

theorem readIpv6_display : readIpv6 ip.display.toList = some ip := by
  unfold Ipv6Addr.display
  cases hmapped : ip.toIpv4Mapped with
  | some ipv4 => exact readIpv6_display_of_mapped hmapped
  | none =>
    have hsegments := segments_eq_of_zeroSpan ip.segments
    have hlength := ip.length_segments
    simp only
    generalize zeroSpan ip.segments 0 {} {} = z at hsegments ⊢
    by_cases hz : z.len > 1
    · have hsplit : splitDouble (fmtSubslice (ip.segments.take z.start) ++ "::" ++
          fmtSubslice (ip.segments.drop (z.start + z.len))).toList =
          some ((fmtSubslice (ip.segments.take z.start)).toList,
            (fmtSubslice (ip.segments.drop (z.start + z.len))).toList) := by
        have h := splitDouble_groups (isGroups_groupTexts (ip.segments.take z.start))
          (':' :: ':' :: (fmtSubslice (ip.segments.drop (z.start + z.len))).toList)
        rw [← toList_fmtSubslice] at h
        simpa [splitDouble_double] using h
      rw [if_pos hz, readIpv6, hsplit]
      have hcount : 8 - ((ip.segments.take z.start).length +
          (ip.segments.drop (z.start + z.len)).length) = z.len := by
        have hsum := congrArg List.length hsegments
        simp only [List.length_append, List.length_replicate] at hsum
        omega
      simp only [readGroups_fmtSubslice, Option.bind_eq_bind, Option.bind_some, hcount,
        ← hsegments, ofSegments?_segments]
    · have hsplit : splitDouble (fmtSubslice ip.segments).toList = none := by
        have h := splitDouble_groups (isGroups_groupTexts ip.segments) []
        rw [List.append_nil, ← toList_fmtSubslice] at h
        rw [h]
        rfl
      rw [if_neg hz, readIpv6, hsplit]
      simp only [readGroups_fmtSubslice, Option.bind_some, ofSegments?_segments]

theorem not_mem_intercalate {d : Char} (hd : c ≠ d) (h : ∀ g ∈ gs, c ∉ g) :
    c ∉ List.intercalate [d] gs := by
  induction gs with
  | nil => simp
  | cons g gs ih =>
    have hg := h g (by simp)
    have ih := ih fun g' hg' => h g' (by simp [hg'])
    cases gs with
    | nil => simpa using hg
    | cons g' gs =>
      rw [List.intercalate_cons_cons]
      simp [hg, hd, ih]

theorem not_mem_fmtSubslice (hdigit : digitValue c = none) (hcolon : c ≠ ':')
    (chunk : List UInt16) : c ∉ (fmtSubslice chunk).toList := by
  rw [toList_fmtSubslice]
  apply not_mem_intercalate hcolon
  intro g hg
  obtain ⟨s, -, rfl⟩ := List.mem_map.1 hg
  exact not_mem_toDigits (by decide) (by decide) hdigit _

theorem not_mem_display_ipv6 (hdigit : digitValue c = none) (hdot : c ≠ '.') (hcolon : c ≠ ':')
    (ip : Ipv6Addr) : c ∉ ip.display.toList := by
  have hf : c ≠ 'f' := by
    rintro rfl
    exact absurd hdigit (by decide)
  unfold Ipv6Addr.display
  cases ip.toIpv4Mapped with
  | some ipv4 =>
    simp [hf, hcolon, not_mem_display_ipv4 hdigit hdot ipv4]
  | none =>
    simp only
    split
    · simp [hcolon, not_mem_fmtSubslice hdigit hcolon]
    · exact not_mem_fmtSubslice hdigit hcolon _

theorem colon_mem_display_ipv6 : ':' ∈ ip.display.toList := by
  unfold Ipv6Addr.display
  cases ip.toIpv4Mapped with
  | some ipv4 => simp
  | none =>
    simp only
    split
    · simp
    · -- Eight groups have a separator between them.
      obtain ⟨a, b, l, hl⟩ : ∃ a b l, ip.segments = a :: b :: l := by
        match ip.segments, ip.length_segments with
        | a :: b :: l, _ => exact ⟨a, b, l, rfl⟩
      rw [toList_fmtSubslice, hl, groupTexts, List.map_cons, List.map_cons,
        List.intercalate_cons_cons]
      simp

/-! ## Addresses and networks -/

def IpAddr.display : IpAddr → String
  | .v4 ip => ip.display
  | .v6 ip => ip.display

def IpNetwork.display : IpNetwork → String
  | .v4 net => net.addr.display ++ "/" ++ decimal net.len
  | .v6 net => net.addr.display ++ "/" ++ decimal net.len

def readIpAddr : AddrFamily → List Char → Option IpAddr
  | .v4, cs => (readIpv4 cs).map .v4
  | .v6, cs => (readIpv6 cs).map .v6

/-- What an address match of a rule text denotes: an address or a network. -/
inductive IpPattern where
  | host (ip : IpAddr)
  | net (net : IpNetwork)
deriving DecidableEq

def IpPattern.matches : IpPattern → IpAddr → Bool
  | .host ip, ip' => ip' == ip
  | .net n, ip' => n.contains ip'

def IpPattern.family : IpPattern → AddrFamily
  | .host ip => ip.family
  | .net n => n.family

def IpPattern.display : IpPattern → String
  | .host ip => ip.display
  | .net n => n.display

def readPattern (family : AddrFamily) (s : String) : Option IpPattern :=
  match s.toList.splitOn '/' with
  | [a] => (readIpAddr family a).map .host
  | [a, l] => do
    let ip ← readIpAddr family a
    let len ← readDigits 10 l
    match ip with
    | .v4 addr => return .net (.v4 ⟨addr, len⟩)
    | .v6 addr => return .net (.v6 ⟨addr, len⟩)
  | _ => none

theorem readIpAddr_display (ip : IpAddr) : readIpAddr ip.family ip.display.toList = some ip := by
  cases ip with
  | v4 ip => simp [readIpAddr, IpAddr.family, IpAddr.display, readIpv4_display]
  | v6 ip => simp [readIpAddr, IpAddr.family, IpAddr.display, readIpv6_display]

theorem IpAddr.not_mem_display (hdigit : digitValue c = none) (hdot : c ≠ '.') (hcolon : c ≠ ':')
    (ip : IpAddr) : c ∉ ip.display.toList := by
  cases ip with
  | v4 ip => exact not_mem_display_ipv4 hdigit hdot ip
  | v6 ip => exact not_mem_display_ipv6 hdigit hdot hcolon ip

theorem readPattern_display_addr (ip : IpAddr) :
    readPattern ip.family ip.display = some (.host ip) := by
  have hslash := ip.not_mem_display (c := '/') (by decide) (by decide) (by decide)
  rw [readPattern, List.splitOn_eq_singleton hslash]
  simp [readIpAddr_display]

theorem readPattern_display_net (n : IpNetwork) :
    readPattern n.family n.display = some (.net n) := by
  have hsplit {addr : String} (hslash : '/' ∉ addr.toList) (len : ℕ) :
      (addr ++ "/" ++ decimal len).toList.splitOn '/' = [addr.toList, Nat.toDigits 10 len] := by
    have hlen : '/' ∉ Nat.toDigits 10 len :=
      not_mem_toDigits (by decide) (by decide) (by decide) len
    simp [decimal, List.splitOn_append_cons_self, List.splitOn_eq_singleton hslash,
      List.splitOn_eq_singleton hlen]
  cases n with
  | v4 n =>
    have hslash := not_mem_display_ipv4 (c := '/') (by decide) (by decide) n.addr
    simp only [readPattern, IpNetwork.display, IpNetwork.family, hsplit hslash]
    simp [readIpAddr, readIpv4_display, readDigits_toDigits]
  | v6 n =>
    have hslash := not_mem_display_ipv6 (c := '/') (by decide) (by decide) (by decide) n.addr
    simp only [readPattern, IpNetwork.display, IpNetwork.family, hsplit hslash]
    simp [readIpAddr, readIpv6_display, readDigits_toDigits]

theorem IpNetwork.not_mem_display (hdigit : digitValue c = none) (hdot : c ≠ '.') (hcolon : c ≠ ':')
    (hslash : c ≠ '/') (n : IpNetwork) : c ∉ n.display.toList := by
  have hlen (l : ℕ) : c ∉ Nat.toDigits 10 l :=
    not_mem_toDigits (by decide) (by decide) hdigit l
  cases n with
  | v4 n =>
    simp [IpNetwork.display, decimal, hlen, hslash, not_mem_display_ipv4 hdigit hdot]
  | v6 n =>
    simp [IpNetwork.display, decimal, hlen, hslash, not_mem_display_ipv6 hdigit hdot hcolon]

theorem readPattern_display : readPattern p.family p.display = some p := by
  cases p with
  | host ip => exact readPattern_display_addr ip
  | net n => exact readPattern_display_net n

theorem IpPattern.not_mem_display (hdigit : digitValue c = none) (hdot : c ≠ '.') (hcolon : c ≠ ':')
    (hslash : c ≠ '/') (p : IpPattern) : c ∉ p.display.toList := by
  cases p with
  | host ip => exact ip.not_mem_display hdigit hdot hcolon
  | net n => exact n.not_mem_display hdigit hdot hcolon hslash

theorem IpPattern.isWord_display : IsWord p.display ∧ IsLine p.display := by
  have hne : p.display.toList ≠ [] := by
    intro h
    have hempty : p.display = "" := String.toList_eq_nil_iff.1 h
    have hnone : ∀ f : AddrFamily, readPattern f "" = none := by
      intro f
      cases f <;> decide
    have hread := readPattern_display p
    rw [hempty, hnone] at hread
    exact absurd hread (by simp)
  exact ⟨⟨hne, p.not_mem_display (by decide) (by decide) (by decide) (by decide)⟩,
    p.not_mem_display (by decide) (by decide) (by decide) (by decide)⟩

end Net
