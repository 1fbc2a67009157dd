import Mathlib.Algebra.Group.Nat.Defs
import Mathlib.Data.List.Basic
import Mathlib.Data.Nat.Basic

/-!
# AmneziaWG obfuscation

The headers of WireGuard packets are remapped, handshakes are padded and preceded by junk, and
what arrives is mapped back. A header is kept as the unsigned word of its four bytes.
-/

namespace Amnezia

abbrev Bytes := List UInt8

/-! ## Headers -/

def toLeBytes (h : UInt32) : Bytes :=
  [.ofNat h.toNat, .ofNat (h.toNat / 2 ^ 8), .ofNat (h.toNat / 2 ^ 16), .ofNat (h.toNat / 2 ^ 24)]

def ofLeBytes : Bytes → UInt32
  | b₀ :: b₁ :: b₂ :: b₃ :: _ =>
    .ofNat (b₀.toNat + b₁.toNat * 2 ^ 8 + b₂.toNat * 2 ^ 16 + b₃.toNat * 2 ^ 24)
  | _ => 0

def readHeader (data : Bytes) (offset : ℕ) : UInt32 := ofLeBytes (data.drop offset)

def setHeader (data : Bytes) (h : UInt32) : Bytes := toLeBytes h ++ data.drop 4

theorem ofLeBytes_toLeBytes (h : UInt32) (rest : Bytes) : ofLeBytes (toLeBytes h ++ rest) = h := by
  have hlt := h.toNat_lt
  apply UInt32.toNat_inj.1
  simp only [toLeBytes, ofLeBytes, List.cons_append, UInt32.toNat_ofNat', UInt8.toNat_ofNat']
  omega

theorem toLeBytes_ofLeBytes {data : Bytes} (h : 4 ≤ data.length) :
    toLeBytes (ofLeBytes data) ++ data.drop 4 = data := by
  rcases data with _ | ⟨b₀, _ | ⟨b₁, _ | ⟨b₂, _ | ⟨b₃, rest⟩⟩⟩⟩
  · simp at h
  · simp at h
  · simp at h
  · simp at h
  · have h₀ := b₀.toNat_lt
    have h₁ := b₁.toNat_lt
    have h₂ := b₂.toNat_lt
    have h₃ := b₃.toNat_lt
    simp only [ofLeBytes, toLeBytes, List.drop_succ_cons, List.drop_zero, List.cons_append,
      List.nil_append, List.cons.injEq, and_true, ← UInt8.toNat_inj, UInt32.toNat_ofNat',
      UInt8.toNat_ofNat']
    omega

@[simp] theorem length_toLeBytes (h : UInt32) : (toLeBytes h).length = 4 := rfl

theorem setHeader_readHeader {data : Bytes} (h : 4 ≤ data.length) :
    setHeader data (readHeader data 0) = data := toLeBytes_ofLeBytes h

@[simp] theorem setHeader_toLeBytes (h h' : UInt32) (rest : Bytes) :
    setHeader (toLeBytes h ++ rest) h' = toLeBytes h' ++ rest := by
  rw [setHeader, List.drop_left' (length_toLeBytes h)]

/-! ## Sending -/

structure AmneziaConfig where
  junkPktCount : ℕ
  junkPktMinSize : ℕ
  junkPktMaxSize : ℕ
  initPktJunkSize : ℕ
  responsePktJunkSize : ℕ
  initPktMagicHeader : UInt32
  responsePktMagicHeader : UInt32
  underLoadPktMagicHeader : UInt32
  transportPktMagicHeader : UInt32
deriving DecidableEq

namespace AmneziaConfig

def off : AmneziaConfig := ⟨0, 0, 0, 0, 0, 1, 2, 3, 4⟩

def isOff (c : AmneziaConfig) : Bool := c == off

def validate (c : AmneziaConfig) : Bool :=
  !(decide (c.junkPktCount > 128) || decide (c.junkPktMaxSize > 1280) ||
    decide (c.junkPktMinSize > c.junkPktMaxSize) || decide (c.initPktJunkSize > 1280) ||
    decide (c.responsePktJunkSize > 1280) ||
    [c.responsePktMagicHeader, c.underLoadPktMagicHeader, c.transportPktMagicHeader].contains
      c.initPktMagicHeader ||
    [c.initPktMagicHeader, c.underLoadPktMagicHeader, c.transportPktMagicHeader].contains
      c.responsePktMagicHeader ||
    [c.initPktMagicHeader, c.responsePktMagicHeader, c.transportPktMagicHeader].contains
      c.underLoadPktMagicHeader ||
    [c.initPktMagicHeader, c.responsePktMagicHeader, c.underLoadPktMagicHeader].contains
      c.transportPktMagicHeader)

end AmneziaConfig

structure AmneziaParams where
  h1 : UInt32
  h2 : UInt32
  h3 : UInt32
  h4 : UInt32
  s1 : ℕ
  s2 : ℕ
  jc : ℕ
  jmin : ℕ
  jmax : ℕ

def AmneziaParams.fromConfig (c : AmneziaConfig) : Option AmneziaParams :=
  if c.isOff then none
  else some ⟨c.initPktMagicHeader, c.responsePktMagicHeader, c.underLoadPktMagicHeader,
    c.transportPktMagicHeader, c.initPktJunkSize, c.responsePktJunkSize, c.junkPktCount,
    c.junkPktMinSize, c.junkPktMaxSize⟩

def wgInit : UInt32 := 1
def wgResponse : UInt32 := 2
def wgCookie : UInt32 := 3
def wgData : UInt32 := 4

def wgInitSize : ℕ := 148
def wgResponseSize : ℕ := 92
def wgCookieSize : ℕ := 64
def wgDataMinSize : ℕ := 32

structure Random where
  paddingByte : ℕ → UInt8
  junkSize : ℕ → ℕ
  junkByte : ℕ → ℕ → UInt8

def Random.padding (r : Random) (size : ℕ) : Bytes := (List.range size).map r.paddingByte

def remapAndPad (data : Bytes) (h : UInt32) (padding : Bytes) : Bytes :=
  padding ++ (toLeBytes h ++ data.drop 4)

def junkPackets (a : AmneziaParams) (r : Random) : List Bytes :=
  (List.range a.jc).map fun k =>
    let size := if a.jmin ≥ a.jmax then a.jmin else a.jmin + r.junkSize k % (a.jmax - a.jmin + 1)
    (List.range size).map (r.junkByte k)

structure Outgoing (δ : Type*) where
  packet : Bytes
  destination : δ
  random : Random

variable {δ : Type*} {a : AmneziaParams} {α : Type*}

def sendTo (params : Option AmneziaParams) (o : Outgoing δ) : List (Bytes × δ) :=
  match params with
  | none => [(o.packet, o.destination)]
  | some a =>
    if o.packet.length < 4 then [(o.packet, o.destination)]
    else
      let msgType := readHeader o.packet 0
      if msgType = wgInit then
        (junkPackets a o.random).map (·, o.destination) ++
          [(remapAndPad o.packet a.h1 (o.random.padding a.s1), o.destination)]
      else if msgType = wgResponse then
        [(remapAndPad o.packet a.h2 (o.random.padding a.s2), o.destination)]
      else if msgType = wgCookie ∨ msgType = wgData then
        [(setHeader o.packet (if msgType = wgCookie then a.h3 else a.h4), o.destination)]
      else [(o.packet, o.destination)]

/-! ## Receiving -/

def stripPaddingAndRemap (data : Bytes) (padSize : ℕ) (h : UInt32) : Bytes :=
  setHeader (data.drop padSize) h

def deobfuscatePacket (a : AmneziaParams) (data : Bytes) : Option Bytes :=
  if data.length < 4 then none
  else
    let header := readHeader data 0
    if header = a.h3 ∧ data.length = wgCookieSize then some (setHeader data wgCookie)
    else if header = a.h4 ∧ data.length ≥ wgDataMinSize then some (setHeader data wgData)
    else if a.s1 = 0 ∧ header = a.h1 ∧ data.length = wgInitSize then
      some (setHeader data wgInit)
    else if a.s2 = 0 ∧ header = a.h2 ∧ data.length = wgResponseSize then
      some (setHeader data wgResponse)
    else if a.s1 > 0 ∧ data.length = a.s1 + wgInitSize ∧ readHeader data a.s1 = a.h1 then
      some (stripPaddingAndRemap data a.s1 wgInit)
    else if a.s2 > 0 ∧ data.length = a.s2 + wgResponseSize ∧ readHeader data a.s2 = a.h2 then
      some (stripPaddingAndRemap data a.s2 wgResponse)
    else none

/-! ## Back and forth -/

def IsStandard (data : Bytes) : Prop :=
  readHeader data 0 = wgInit ∧ data.length = wgInitSize ∨
    readHeader data 0 = wgResponse ∧ data.length = wgResponseSize ∨
    readHeader data 0 = wgCookie ∧ data.length = wgCookieSize ∨
    readHeader data 0 = wgData ∧ data.length ≥ wgDataMinSize

def emits (a : AmneziaParams) (r : Random) (data : Bytes) : Option Bytes :=
  ((sendTo (some a) ⟨data, (), r⟩).getLast?).map (·.1)

structure AmneziaParams.Distinct (a : AmneziaParams) : Prop where
  h12 : a.h1 ≠ a.h2
  h13 : a.h1 ≠ a.h3
  h14 : a.h1 ≠ a.h4
  h23 : a.h2 ≠ a.h3
  h24 : a.h2 ≠ a.h4
  h34 : a.h3 ≠ a.h4

theorem distinct_of_validate {c : AmneziaConfig} (hc : c.validate = true)
    (ha : AmneziaParams.fromConfig c = some a) : a.Distinct := by
  unfold AmneziaParams.fromConfig at ha
  split at ha
  · cases ha
  · cases ha
    simp only [AmneziaConfig.validate, Bool.not_eq_true', Bool.or_eq_false_iff,
      List.contains_eq_mem, List.mem_cons, List.not_mem_nil, or_false, decide_eq_false_iff_not,
      not_or] at hc
    obtain ⟨⟨⟨⟨-, h1⟩, h2⟩, h3⟩, -⟩ := hc
    exact ⟨h1.1, h1.2.1, h1.2.2, h2.2.1, h2.2.2, h3.2.2⟩

section

variable {a : AmneziaParams} {r : Random} {p d : Bytes} {size : ℕ} {h : UInt32}

@[simp] theorem length_padding (r : Random) (size : ℕ) : (r.padding size).length = size := by
  simp [Random.padding]

theorem emits_init (hp : 4 ≤ p.length) (htype : readHeader p 0 = wgInit) :
    emits a r p = some (remapAndPad p a.h1 (r.padding a.s1)) := by
  simp [emits, sendTo, htype, Nat.not_lt.2 hp]

theorem emits_response (hp : 4 ≤ p.length) (htype : readHeader p 0 = wgResponse) :
    emits a r p = some (remapAndPad p a.h2 (r.padding a.s2)) := by
  have hinit : wgResponse ≠ wgInit := by decide
  simp [emits, sendTo, htype, Nat.not_lt.2 hp, hinit]

theorem emits_cookie (hp : 4 ≤ p.length) (htype : readHeader p 0 = wgCookie) :
    emits a r p = some (setHeader p a.h3) := by
  have hother : wgCookie ≠ wgInit ∧ wgCookie ≠ wgResponse := by decide
  simp [emits, sendTo, htype, Nat.not_lt.2 hp, hother]

theorem emits_data (hp : 4 ≤ p.length) (htype : readHeader p 0 = wgData) :
    emits a r p = some (setHeader p a.h4) := by
  have hother : wgData ≠ wgInit ∧ wgData ≠ wgResponse ∧ wgData ≠ wgCookie := by decide
  simp [emits, sendTo, htype, Nat.not_lt.2 hp, hother]

theorem readHeader_setHeader (h : UInt32) : readHeader (setHeader p h) 0 = h :=
  ofLeBytes_toLeBytes h _

theorem length_setHeader (hp : 4 ≤ p.length) : (setHeader p h).length = p.length := by
  simp only [setHeader, List.length_append, length_toLeBytes, List.length_drop]
  omega

theorem setHeader_setHeader (hp : 4 ≤ p.length) :
    setHeader (setHeader p h) (readHeader p 0) = p := by
  rw [setHeader, setHeader, List.drop_left' (length_toLeBytes h)]
  exact setHeader_readHeader hp

theorem remapAndPad_spec (h : UInt32) (size : ℕ) (hp : 4 ≤ p.length) :
    let d := remapAndPad p h (r.padding size)
    d.length = size + p.length ∧ readHeader d size = h ∧
      stripPaddingAndRemap d size (readHeader p 0) = p := by
  intro d
  have hdrop : d.drop size = toLeBytes h ++ p.drop 4 := List.drop_left' (length_padding r size)
  refine ⟨?_, ?_, ?_⟩
  · simp only [d, remapAndPad, List.length_append, length_toLeBytes, List.length_drop,
      length_padding]
    omega
  · rw [readHeader, hdrop, ofLeBytes_toLeBytes]
  · rw [stripPaddingAndRemap, hdrop, setHeader_toLeBytes]
    exact setHeader_readHeader hp

theorem deobfuscate_cookie (hsize : d.length = wgCookieSize) (hheader : readHeader d 0 = a.h3) :
    deobfuscatePacket a d = some (setHeader d wgCookie) := by
  simp [deobfuscatePacket, hsize, hheader, wgCookieSize]

section

variable (ha : a.Distinct)
include ha

omit ha in
theorem ne_h4 (hheader : readHeader d size = h) (hne : h ≠ a.h4)
    (hdata : 0 < size → readHeader d 0 ≠ a.h4) : readHeader d 0 ≠ a.h4 := by
  rcases Nat.eq_zero_or_pos size with rfl | hpos
  · exact hheader.trans_ne hne
  · exact hdata hpos

theorem deobfuscate_init (hsize : d.length = a.s1 + wgInitSize) (hheader : readHeader d a.s1 = a.h1)
    (hdata : 0 < a.s1 → readHeader d 0 ≠ a.h4) :
    deobfuscatePacket a d = some (stripPaddingAndRemap d a.s1 wgInit) := by
  have hlong : ¬d.length < 4 ∧ d.length ≠ wgCookieSize ∧ d.length ≠ wgResponseSize := by
    simp only [wgCookieSize, wgResponseSize, wgInitSize] at hsize ⊢
    omega
  rw [deobfuscatePacket, if_neg hlong.1]
  dsimp only
  rw [if_neg (not_and_of_not_right _ hlong.2.1),
    if_neg (not_and_of_not_left _ (ne_h4 hheader ha.h14 hdata))]
  rcases Nat.eq_zero_or_pos a.s1 with hzero | hpos
  · rw [hzero] at hheader hsize ⊢
    rw [if_pos ⟨rfl, hheader, hsize.trans (Nat.zero_add _)⟩]
    rfl
  · rw [if_neg (not_and_of_not_left _ (Nat.ne_of_gt hpos)),
      if_neg fun h => hlong.2.2 h.2.2, if_pos ⟨hpos, hsize, hheader⟩]

theorem deobfuscate_response (hsize : d.length = a.s2 + wgResponseSize)
    (hheader : readHeader d a.s2 = a.h2) (hdata : 0 < a.s2 → readHeader d 0 ≠ a.h4)
    (hinit : a.s2 = a.s1 + 56 → readHeader d a.s1 ≠ a.h1) :
    deobfuscatePacket a d = some (stripPaddingAndRemap d a.s2 wgResponse) := by
  have hlong : ¬d.length < 4 ∧ d.length ≠ wgCookieSize := by
    simp only [wgCookieSize, wgResponseSize] at hsize ⊢
    omega
  -- A response has the size of an initiation where the paddings make up for it.
  have hother : d.length = a.s1 + wgInitSize → readHeader d a.s1 ≠ a.h1 := by
    intro hlen
    simp only [wgResponseSize, wgInitSize] at hsize hlen
    exact hinit (by omega)
  have hplain : ¬(a.s1 = 0 ∧ readHeader d 0 = a.h1 ∧ d.length = wgInitSize) := by
    rintro ⟨hs1, hh1, hlen⟩
    rw [hs1, Nat.zero_add] at hother
    exact hother hlen hh1
  rw [deobfuscatePacket, if_neg hlong.1]
  dsimp only
  rw [if_neg (not_and_of_not_right _ hlong.2),
    if_neg (not_and_of_not_left _ (ne_h4 hheader ha.h24 hdata)), if_neg hplain]
  rcases Nat.eq_zero_or_pos a.s2 with hzero | hpos
  · rw [hzero] at hheader hsize ⊢
    rw [if_pos ⟨rfl, hheader, hsize.trans (Nat.zero_add _)⟩]
    rfl
  · rw [if_neg (not_and_of_not_left _ (Nat.ne_of_gt hpos)), if_neg fun h => hother h.2.1 h.2.2,
      if_pos ⟨hpos, hsize, hheader⟩]

theorem deobfuscate_data (hsize : wgDataMinSize ≤ d.length) (hheader : readHeader d 0 = a.h4) :
    deobfuscatePacket a d = some (setHeader d wgData) := by
  have hlong : ¬d.length < 4 := by
    unfold wgDataMinSize at hsize
    omega
  simp [deobfuscatePacket, hsize, hheader, hlong, ha.h34.symm]

/-- What is sent is received again, unless the padding of a handshake reads as the header of
data, or that of a response as an initiation. -/
theorem deobfuscate_emits (hp : IsStandard p) :
    ∃ d, emits a r p = some d ∧
      (deobfuscatePacket a d = some p ∨
        (readHeader p 0 = wgInit ∧ 0 < a.s1 ∨ readHeader p 0 = wgResponse ∧ 0 < a.s2) ∧
          readHeader d 0 = a.h4 ∨
        readHeader p 0 = wgResponse ∧ a.s2 = a.s1 + 56 ∧ readHeader d a.s1 = a.h1) := by
  rcases hp with ⟨htype, hlen⟩ | ⟨htype, hlen⟩ | ⟨htype, hlen⟩ | ⟨htype, hlen⟩
  · have hp : 4 ≤ p.length := by rw [hlen]; decide
    obtain ⟨hsize, hheader, hstrip⟩ := remapAndPad_spec (r := r) a.h1 a.s1 hp
    rw [hlen] at hsize
    rw [htype] at hstrip
    refine ⟨_, emits_init hp htype, ?_⟩
    by_cases hdata : 0 < a.s1 ∧ readHeader (remapAndPad p a.h1 (r.padding a.s1)) 0 = a.h4
    · exact .inr (.inl ⟨.inl ⟨htype, hdata.1⟩, hdata.2⟩)
    · refine .inl ?_
      rw [deobfuscate_init ha hsize hheader fun hpos h4 => hdata ⟨hpos, h4⟩, hstrip]
  · have hp : 4 ≤ p.length := by rw [hlen]; decide
    obtain ⟨hsize, hheader, hstrip⟩ := remapAndPad_spec (r := r) a.h2 a.s2 hp
    rw [hlen] at hsize
    rw [htype] at hstrip
    refine ⟨_, emits_response hp htype, ?_⟩
    by_cases hdata : 0 < a.s2 ∧ readHeader (remapAndPad p a.h2 (r.padding a.s2)) 0 = a.h4
    · exact .inr (.inl ⟨.inr ⟨htype, hdata.1⟩, hdata.2⟩)
    · by_cases hinit : a.s2 = a.s1 + 56 ∧
          readHeader (remapAndPad p a.h2 (r.padding a.s2)) a.s1 = a.h1
      · exact .inr (.inr ⟨htype, hinit⟩)
      · refine .inl ?_
        rw [deobfuscate_response ha hsize hheader (fun hpos h4 => hdata ⟨hpos, h4⟩)
          fun hs hh1 => hinit ⟨hs, hh1⟩, hstrip]
  · have hp : 4 ≤ p.length := by rw [hlen]; decide
    refine ⟨_, emits_cookie hp htype, .inl ?_⟩
    rw [deobfuscate_cookie ((length_setHeader hp).trans hlen) (readHeader_setHeader _), ← htype,
      setHeader_setHeader hp]
  · have hp : 4 ≤ p.length := le_trans (by decide) hlen
    refine ⟨_, emits_data hp htype, .inl ?_⟩
    rw [deobfuscate_data ha (by rwa [length_setHeader hp]) (readHeader_setHeader _), ← htype,
      setHeader_setHeader hp]

end

def Random.of (bytes : Bytes) : Random := ⟨fun i => bytes.getD i 0, fun _ => 0, fun _ _ => 0⟩

theorem padding_of (h : size ≤ d.length) : (Random.of d).padding size = d.take size := by
  apply List.ext_getElem
  · simp [Random.padding, h]
  · intro i hi _
    have hi : i < size := by simpa [Random.padding] using hi
    simp [Random.padding, Random.of, List.getD_eq_getElem?_getD, Nat.lt_of_lt_of_le hi h]

theorem strip_spec {n : ℕ} (hsize : d.length = size + n) (hn : 4 ≤ n) (t : UInt32) :
    let q := stripPaddingAndRemap d size t
    readHeader q 0 = t ∧ q.length = n ∧
      remapAndPad q (readHeader d size) ((Random.of d).padding size) = d := by
  have hrest : (d.drop size).length = n := by rw [List.length_drop, hsize, Nat.add_sub_cancel_left]
  have hlong : 4 ≤ (d.drop size).length := hrest.symm ▸ hn
  refine ⟨readHeader_setHeader t, (length_setHeader hlong).trans hrest, ?_⟩
  rw [remapAndPad, stripPaddingAndRemap, setHeader, List.drop_left' (length_toLeBytes t),
    readHeader, toLeBytes_ofLeBytes hlong, padding_of (by omega), List.take_append_drop]

theorem emits_strip_init (hsize : d.length = a.s1 + wgInitSize)
    (hheader : readHeader d a.s1 = a.h1) :
    IsStandard (stripPaddingAndRemap d a.s1 wgInit) ∧
      ∃ r, emits a r (stripPaddingAndRemap d a.s1 wgInit) = some d := by
  obtain ⟨htype, hlen, hsent⟩ := strip_spec hsize (by decide) wgInit
  refine ⟨.inl ⟨htype, hlen⟩, .of d, ?_⟩
  rw [emits_init (by rw [hlen]; decide) htype, ← hheader, hsent]

theorem emits_strip_response (hsize : d.length = a.s2 + wgResponseSize)
    (hheader : readHeader d a.s2 = a.h2) :
    IsStandard (stripPaddingAndRemap d a.s2 wgResponse) ∧
      ∃ r, emits a r (stripPaddingAndRemap d a.s2 wgResponse) = some d := by
  obtain ⟨htype, hlen, hsent⟩ := strip_spec hsize (by decide) wgResponse
  refine ⟨.inr (.inl ⟨htype, hlen⟩), .of d, ?_⟩
  rw [emits_response (by rw [hlen]; decide) htype, ← hheader, hsent]

theorem emits_of_deobfuscate {q : Bytes} (h : deobfuscatePacket a d = some q) :
    IsStandard q ∧ ∃ r, emits a r q = some d := by
  unfold deobfuscatePacket at h
  dsimp only at h
  split_ifs at h with hshort hcookie hdata hinit hresponse hpadded hpadded' <;> cases h
  · obtain ⟨hheader, hsize⟩ := hcookie
    have hd := Nat.not_lt.1 hshort
    have htype : readHeader (setHeader d wgCookie) 0 = wgCookie := readHeader_setHeader _
    refine ⟨.inr (.inr (.inl ⟨htype, (length_setHeader hd).trans hsize⟩)), .of d, ?_⟩
    rw [emits_cookie (by rwa [length_setHeader hd]) htype, ← hheader, setHeader_setHeader hd]
  · obtain ⟨hheader, hsize⟩ := hdata
    have hd := Nat.not_lt.1 hshort
    have htype : readHeader (setHeader d wgData) 0 = wgData := readHeader_setHeader _
    refine ⟨.inr (.inr (.inr ⟨htype, by rwa [length_setHeader hd]⟩)), .of d, ?_⟩
    rw [emits_data (by rwa [length_setHeader hd]) htype, ← hheader, setHeader_setHeader hd]
  · obtain ⟨hzero, hheader, hsize⟩ := hinit
    have h := emits_strip_init (a := a) (d := d) (by rw [hzero, hsize, Nat.zero_add])
      (by rwa [hzero])
    rwa [hzero] at h
  · obtain ⟨hzero, hheader, hsize⟩ := hresponse
    have h := emits_strip_response (a := a) (d := d) (by rw [hzero, hsize, Nat.zero_add])
      (by rwa [hzero])
    rwa [hzero] at h
  · exact emits_strip_init hpadded.2.1 hpadded.2.2
  · exact emits_strip_response hpadded'.2.1 hpadded'.2.2

end

/-- The obfuscation of an accepted configuration loses nothing: a standard packet is received
as it was sent, two accidents of the padding apart, and what is received is a standard packet
that is sent so for some padding. -/
theorem obfuscation_lossless {c : AmneziaConfig} {a : AmneziaParams} (hc : c.validate = true)
    (ha : AmneziaParams.fromConfig c = some a) :
    (∀ r p, IsStandard p → ∃ d, emits a r p = some d ∧
      (deobfuscatePacket a d = some p ∨
        (readHeader p 0 = wgInit ∧ 0 < a.s1 ∨ readHeader p 0 = wgResponse ∧ 0 < a.s2) ∧
          readHeader d 0 = a.h4 ∨
        readHeader p 0 = wgResponse ∧ a.s2 = a.s1 + 56 ∧ readHeader d a.s1 = a.h1)) ∧
    ∀ d q, deobfuscatePacket a d = some q → IsStandard q ∧ ∃ r, emits a r q = some d :=
  ⟨fun _ _ => deobfuscate_emits (distinct_of_validate hc ha), fun _ _ => emits_of_deobfuscate⟩

/-- A configuration with paddings, and an initiation. -/
theorem obfuscation_lossless_init : let c : AmneziaConfig := ⟨4, 40, 70, 20, 30, 11, 12, 13, 14⟩
    let p : Bytes := toLeBytes wgInit ++ List.replicate 144 0
    let d : Bytes := List.replicate 20 7 ++ setHeader p 11
    c.validate = true ∧ ∃ a, AmneziaParams.fromConfig c = some a ∧
      emits a (.of (List.replicate 20 7)) p = some d ∧ deobfuscatePacket a d = some p := by
  intro c p d
  have htype : readHeader p 0 = wgInit := by decide
  have hlen : p.length = wgInitSize := by simp [p, length_toLeBytes, wgInitSize]
  refine ⟨by decide, _, rfl, ?_⟩
  obtain ⟨d', hd', h⟩ := (obfuscation_lossless (c := c) (by decide) rfl).1
    (.of (List.replicate 20 7)) p (.inl ⟨htype, hlen⟩)
  obtain rfl : d = d' := by
    rw [emits_init (by rw [hlen]; decide) htype, Option.some.injEq] at hd'
    exact hd'
  refine ⟨hd', ?_⟩
  rcases h with h | ⟨-, h⟩ | ⟨h, -⟩
  · exact h
  · exact absurd h (by decide)
  · exact absurd h (by decide)

/-! ## A batch -/

def swapRemove {α : Type*} (packets : List α) (i : ℕ) : List α :=
  match packets.getLast? with
  | none => []
  | some last => (packets.set i last).dropLast

theorem swapRemove_append (done : List α) (o : α) (rest : List α) :
    ∃ rest', swapRemove (done ++ o :: rest) done.length = done ++ rest' ∧ rest'.Perm rest := by
  rcases List.eq_nil_or_concat rest with rfl | ⟨init, last, rfl⟩
  · exact ⟨[], by simp [swapRemove], .nil⟩
  · rw [List.concat_eq_append]
    refine ⟨last :: init, ?_, (List.perm_append_singleton last init).symm⟩
    have hlast : (done ++ o :: (init ++ [last])).getLast? = some last := by
      rw [← List.cons_append, ← List.append_assoc, List.getLast?_concat]
    have hset : (done ++ o :: (init ++ [last])).set done.length last =
        (done ++ last :: init) ++ [last] := by simp
    simp only [swapRemove, hlast, hset, List.dropLast_concat]

theorem length_swapRemove {packets : List α} {i : ℕ} (h : i < packets.length) :
    (swapRemove packets i).length = packets.length - 1 := by
  have hne : packets ≠ [] := List.ne_nil_of_length_pos (Nat.zero_lt_of_lt h)
  simp [swapRemove, List.getLast?_eq_some_getLast hne]

/-- The loop over the batch: headers are remapped in place, handshakes are pulled out. -/
def partitionBatch (a : AmneziaParams) (packets handshakes : List (Outgoing δ)) (i : ℕ) :
    List (Outgoing δ) × List (Outgoing δ) :=
  if h : i < packets.length then
    let o := packets[i]
    if o.packet.length < 4 then partitionBatch a packets handshakes (i + 1)
    else
      let msgType := readHeader o.packet 0
      if msgType = wgInit ∨ msgType = wgResponse then
        partitionBatch a (swapRemove packets i) (handshakes ++ [o]) i
      else if msgType = wgCookie then
        partitionBatch a (packets.set i { o with packet := setHeader o.packet a.h3 }) handshakes
          (i + 1)
      else if msgType = wgData then
        partitionBatch a (packets.set i { o with packet := setHeader o.packet a.h4 }) handshakes
          (i + 1)
      else partitionBatch a packets handshakes (i + 1)
  else (packets, handshakes)
termination_by packets.length - i
decreasing_by
  · omega
  · rw [length_swapRemove h]
    omega
  · rw [List.length_set]
    omega
  · rw [List.length_set]
    omega
  · omega

def sendHandshakes (a : AmneziaParams) : List (Outgoing δ) → Option (List (Bytes × δ))
  | [] => some []
  | o :: rest =>
    let msgType := readHeader o.packet 0
    if msgType = wgInit then
      (sendHandshakes a rest).map
        ((junkPackets a o.random).map (·, o.destination) ++
          [(remapAndPad o.packet a.h1 (o.random.padding a.s1), o.destination)] ++ ·)
    else if msgType = wgResponse then
      (sendHandshakes a rest).map
        ((remapAndPad o.packet a.h2 (o.random.padding a.s2), o.destination) :: ·)
    else none

def Outgoing.asIs (o : Outgoing δ) : Bytes × δ := (o.packet, o.destination)

/-- What is handed to the inner transport, in order; nothing where the loop comes to what it
takes to be unreachable. -/
def sendManyTo (params : Option AmneziaParams) (packets : List (Outgoing δ)) :
    Option (List (Bytes × δ)) :=
  match params with
  | none => some (packets.map (·.asIs))
  | some a =>
    let (batch, handshakes) := partitionBatch a packets [] 0
    (sendHandshakes a handshakes).map (batch.map (·.asIs) ++ ·)

def Outgoing.IsHandshake (o : Outgoing δ) : Prop :=
  4 ≤ o.packet.length ∧ (readHeader o.packet 0 = wgInit ∨ readHeader o.packet 0 = wgResponse)

theorem sendHandshakes_eq {handshakes : List (Outgoing δ)} (h : ∀ o ∈ handshakes, o.IsHandshake) :
    sendHandshakes a handshakes = some (handshakes.flatMap (sendTo (some a))) := by
  have hother : wgResponse ≠ wgInit := by decide
  induction handshakes with
  | nil => rfl
  | cons o rest ih =>
    obtain ⟨hlong, htype⟩ := h o List.mem_cons_self
    have ih := ih fun o' ho' => h o' (List.mem_cons_of_mem _ ho')
    rcases htype with htype | htype
    · simp [sendHandshakes, sendTo, htype, Nat.not_lt.2 hlong, ih]
    · simp [sendHandshakes, sendTo, htype, Nat.not_lt.2 hlong, ih, hother]

/-- A batch and the handshakes pulled out of it make up what is to be sent. -/
structure MakesUp (a : AmneziaParams) (sent : List (Bytes × δ))
    (split : List (Outgoing δ) × List (Outgoing δ)) : Prop where
  handshakes : ∀ o ∈ split.2, o.IsHandshake
  perm : (split.1.map (·.asIs) ++ split.2.flatMap (sendTo (some a))).Perm sent

/-- What the loop leaves in the batch is ready, and nothing is left out or taken twice: the
induction is on what the loop has not come to. -/
theorem makesUp_partitionBatch (a : AmneziaParams) (n : ℕ) :
    ∀ done rest handshakes : List (Outgoing δ), rest.length = n →
      (∀ o ∈ handshakes, o.IsHandshake) →
      MakesUp a (done.map (·.asIs) ++ rest.flatMap (sendTo (some a)) ++
        handshakes.flatMap (sendTo (some a)))
        (partitionBatch a (done ++ rest) handshakes done.length) := by
  induction n with
  | zero =>
    intro done rest handshakes hlen hhand
    obtain rfl := List.length_eq_zero_iff.1 hlen
    rw [partitionBatch]
    exact ⟨by simpa using hhand, by simp⟩
  | succ n ih =>
    intro done rest handshakes hlen hhand
    obtain ⟨o, rest, rfl⟩ := List.exists_cons_of_length_eq_add_one hlen
    have hlen : rest.length = n := Nat.succ.inj hlen
    have hlt : done.length < (done ++ o :: rest).length := by simp
    have hget : (done ++ o :: rest)[done.length] = o := by simp
    -- A packet that stays in the batch, with the header it has then.
    have hstay : ∀ o' : Outgoing δ, sendTo (some a) o = [o'.asIs] →
        MakesUp a (done.map (·.asIs) ++ (o :: rest).flatMap (sendTo (some a)) ++
          handshakes.flatMap (sendTo (some a)))
          (partitionBatch a (done ++ o' :: rest) handshakes (done.length + 1)) := by
      intro o' ho'
      have h := ih (done ++ [o']) rest handshakes hlen hhand
      simpa [ho'] using h
    have hset : ∀ o' : Outgoing δ, (done ++ o :: rest).set done.length o' = done ++ o' :: rest :=
      fun o' => by simp
    rw [partitionBatch, dif_pos hlt]
    simp only [hget, hset]
    split_ifs with hshort hhandshake hcookie hdata
    · exact hstay o (by simp [sendTo, hshort, Outgoing.asIs])
    · obtain ⟨rest', hswap, hperm⟩ := swapRemove_append done o rest
      have h := ih done rest' (handshakes ++ [o]) (hperm.length_eq.trans hlen) (by
        intro x hx
        rcases List.mem_append.1 hx with hx | hx
        · exact hhand x hx
        · rw [List.mem_singleton.1 hx]
          exact ⟨Nat.not_lt.1 hshort, hhandshake⟩)
      rw [hswap]
      refine ⟨h.handshakes, h.perm.trans ?_⟩
      rw [List.flatMap_append, List.flatMap_singleton, List.flatMap_cons, List.append_assoc,
        List.append_assoc, List.append_assoc]
      refine .append_left _ (List.Perm.trans ?_ List.perm_append_comm)
      rw [← List.append_assoc]
      exact ((hperm.flatMap_right _).append_right _).append_right _ |>.trans (by simp)
    · have hother : wgCookie ≠ wgInit ∧ wgCookie ≠ wgResponse := by decide
      exact hstay { o with packet := setHeader o.packet a.h3 }
        (by simp [sendTo, hshort, hother, hcookie, Outgoing.asIs])
    · have hother : wgData ≠ wgInit ∧ wgData ≠ wgResponse ∧ wgData ≠ wgCookie := by decide
      exact hstay { o with packet := setHeader o.packet a.h4 }
        (by simp [sendTo, hshort, hother, hdata, Outgoing.asIs])
    · have hother := not_or.1 hhandshake
      exact hstay o (by simp [sendTo, hshort, hother, hcookie, hdata, Outgoing.asIs])

/-- A batch hands over what its packets hand over one by one. -/
theorem batch_sends_each (params : Option AmneziaParams) (packets : List (Outgoing δ)) :
    ∃ sent, sendManyTo params packets = some sent ∧
      sent.Perm (packets.flatMap (sendTo params)) := by
  cases params with
  | none => exact ⟨_, rfl, .of_eq (List.flatMap_pure_eq_map _ packets).symm⟩
  | some a =>
    have h := makesUp_partitionBatch a packets.length [] packets [] rfl (by simp)
    rw [List.nil_append, List.length_nil] at h
    refine ⟨_, ?_, h.perm.trans (.of_eq (by simp))⟩
    simp only [sendManyTo, sendHandshakes_eq h.handshakes, Option.map_some]

end Amnezia
