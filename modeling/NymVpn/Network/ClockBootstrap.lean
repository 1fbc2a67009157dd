import Mathlib.Algebra.Order.Archimedean.Real.Basic
import NymVpn.Net.Addr

/-!
# The bootstrap of the clock

The daemon asks the servers of the NTP pool in turn, and sets the clock to the first time
ahead of the clock and of its own build, and not implausibly far. Times are in nanoseconds
since 1970.
-/

namespace ClockBootstrap

abbrev SystemTime := ℤ

def nanosPerSec : ℕ := 1000000000

def ntpUnixOffset : ℕ := 2208988800

def maxPlausibleAhead : ℕ := 15 * 365 * 24 * 3600 * nanosPerSec

/-- `None` where the addition panics: the seconds are a signed word of 64 bits. -/
def addDuration (t : SystemTime) (d : ℕ) : Option SystemTime :=
  if t + d < 2 ^ 63 * nanosPerSec then some (t + d) else none

def fromBeBytes (bytes : List UInt8) : ℕ := bytes.foldl (fun n b => n * 256 + b.toNat) 0

def parseSntpReply (buf : List UInt8) : Except String SystemTime :=
  if buf.length < 48 then .error "short SNTP reply"
  else
    let li := buf.getD 0 0 >>> 6
    let mode := buf.getD 0 0 &&& 7
    let stratum := buf.getD 1 0
    let secs := fromBeBytes ((buf.drop 40).take 4)
    let frac := fromBeBytes ((buf.drop 44).take 4)
    if mode ≠ 4 then .error "not a server-mode reply"
    else if li = 3 then .error "server clock unsynchronized"
    else if ¬(1 ≤ stratum ∧ stratum ≤ 15) then .error "unusable stratum"
    else if secs = 0 ∧ frac = 0 then .error "zero transmit timestamp"
    else
      -- The seconds wrap in 2036; those before 1970 are of the next era.
      let unixSecs :=
        if secs ≥ ntpUnixOffset then secs - ntpUnixOffset else secs + 2 ^ 32 - ntpUnixOffset
      let nanos := (frac * nanosPerSec) >>> 32
      .ok (unixSecs * nanosPerSec + nanos : ℕ)

/-- The buffer holds 48 bytes; what is longer is cut. -/
def sntpQuery (reply : Except String (List UInt8)) : Except String SystemTime := do
  parseSntpReply ((← reply).take 48)

def setClock (clockSettime : SystemTime → Except String Unit) (t : SystemTime) :
    Except String Unit :=
  if t < 0 then .error "second time provided was later than self" else clockSettime t

structure Bootstrap where
  result : Option (Except String SystemTime)
  clock : List SystemTime
deriving Repr

section

variable (clockSettime : SystemTime → Except String Unit) (now floor : SystemTime)

def askServers : List (Net.SocketAddr × Except String (List UInt8)) → Bootstrap
  | [] => ⟨some (.error "no NTP server returned a usable time"), []⟩
  | (_, reply) :: servers =>
    match sntpQuery reply with
    | .error _ => askServers servers
    | .ok t =>
      if t ≤ now ∨ t ≤ floor then askServers servers
      else
        match addDuration floor maxPlausibleAhead with
        | none => ⟨none, []⟩
        | some latest =>
          if t > latest then askServers servers
          else
            match setClock clockSettime t with
            | .error e => ⟨some (.error ("clock_settime failed: " ++ e)), []⟩
            | .ok _ => ⟨some (.ok t), [t]⟩

def bootstrap (servers : List (Net.SocketAddr × Except String (List UInt8))) : Bootstrap :=
  if servers.isEmpty then ⟨some (.error "could not resolve any NTP pool address"), []⟩
  else askServers clockSettime now floor servers

end

/-! ## The time of a reply -/

/-- The 64 bits that stand for an instant, in seconds since 1970: seconds since 1900 and their
binary fraction. -/
noncomputable def transmitTimestamp (T : ℝ) : ℕ := ⌊(T + ntpUnixOffset) * 2 ^ 32⌋₊ % 2 ^ 64

def beBytes : ℕ → ℕ → List UInt8
  | 0, _ => []
  | k + 1, n => beBytes k (n / 256) ++ [UInt8.ofNat n]

/-- The reply of a server that is synchronized, with its transmit timestamp. -/
structure IsServerReply (buf : List UInt8) (timestamp : ℕ) : Prop where
  length : 48 ≤ buf.length
  mode : buf.getD 0 0 &&& 7 = 4
  synchronized : buf.getD 0 0 >>> 6 ≠ 3
  stratum : 1 ≤ buf.getD 1 0 ∧ buf.getD 1 0 ≤ 15
  timestamp : (buf.drop 40).take 8 = beBytes 8 timestamp

theorem fromBeBytes_beBytes (k n : ℕ) : fromBeBytes (beBytes k n) = n % 256 ^ k := by
  induction k generalizing n with
  | zero => simp [beBytes, fromBeBytes, Nat.mod_one]
  | succ k ih =>
    have hprefix : (beBytes k (n / 256)).foldl (fun n b => n * 256 + b.toNat) 0 = _ := ih (n / 256)
    rw [fromBeBytes, beBytes, List.foldl_append, hprefix, pow_succ', Nat.mod_mul]
    simp only [List.foldl_cons, List.foldl_nil, UInt8.toNat_ofNat']
    omega

theorem beBytes_add (j k n : ℕ) : beBytes (j + k) n = beBytes j (n / 256 ^ k) ++ beBytes k n := by
  induction k generalizing n with
  | zero => simp [beBytes]
  | succ k ih =>
    rw [← Nat.add_assoc, beBytes, ih, beBytes, Nat.div_div_eq_div_mul, ← pow_succ',
      List.append_assoc]

theorem length_beBytes (k n : ℕ) : (beBytes k n).length = k := by
  induction k generalizing n with
  | zero => rfl
  | succ k ih => rw [beBytes, List.length_append, ih]; rfl

variable {buf : List UInt8} {timestamp : ℕ}

theorem IsServerReply.words (h : IsServerReply buf timestamp) :
    fromBeBytes ((buf.drop 40).take 4) = timestamp / 2 ^ 32 % 2 ^ 32 ∧
      fromBeBytes ((buf.drop 44).take 4) = timestamp % 2 ^ 32 := by
  have hbytes : (buf.drop 40).take 8 = beBytes 4 (timestamp / 256 ^ 4) ++ beBytes 4 timestamp :=
    h.timestamp.trans (beBytes_add 4 4 timestamp)
  have hhigh : (buf.drop 40).take 4 = beBytes 4 (timestamp / 256 ^ 4) := by
    have htake := congrArg (List.take 4) hbytes
    rwa [List.take_take, List.take_left' (length_beBytes _ _)] at htake
  have hlow : (buf.drop 44).take 4 = beBytes 4 timestamp := by
    have hdrop := congrArg (List.drop 4) hbytes
    rwa [List.drop_take, List.drop_drop, List.drop_left' (length_beBytes _ _)] at hdrop
  rw [hhigh, hlow, fromBeBytes_beBytes, fromBeBytes_beBytes]
  exact ⟨rfl, rfl⟩

theorem unixSecs_eq {s : ℕ} (hs : ntpUnixOffset ≤ s) (hs' : s < 2 ^ 32 + ntpUnixOffset) :
    (if s % 2 ^ 32 ≥ ntpUnixOffset then s % 2 ^ 32 - ntpUnixOffset
      else s % 2 ^ 32 + 2 ^ 32 - ntpUnixOffset) = s - ntpUnixOffset := by
  unfold ntpUnixOffset at *
  split <;> omega

theorem parseSntpReply_of_isServerReply
    (h : IsServerReply buf (timestamp % 2 ^ 64)) (hne : timestamp % 2 ^ 64 ≠ 0)
    (hs : ntpUnixOffset ≤ timestamp / 2 ^ 32) (hs' : timestamp / 2 ^ 32 < 2 ^ 32 + ntpUnixOffset) :
    parseSntpReply buf = .ok (((timestamp / 2 ^ 32 - ntpUnixOffset) * nanosPerSec +
      timestamp % 2 ^ 32 * nanosPerSec / 2 ^ 32 : ℕ) : ℤ) := by
  obtain ⟨hsecs, hfrac⟩ := h.words
  have hsecs' : timestamp % 2 ^ 64 / 2 ^ 32 % 2 ^ 32 = timestamp / 2 ^ 32 % 2 ^ 32 := by omega
  have hfrac' : timestamp % 2 ^ 64 % 2 ^ 32 = timestamp % 2 ^ 32 := by omega
  have hzero : ¬(timestamp / 2 ^ 32 % 2 ^ 32 = 0 ∧ timestamp % 2 ^ 32 = 0) := by omega
  unfold parseSntpReply
  rw [if_neg (Nat.not_lt.2 h.length)]
  simp only [hsecs, hfrac, hsecs', hfrac', h.mode, h.synchronized, h.stratum, hzero,
    unixSecs_eq hs hs', Nat.shiftRight_eq_div_pow, ne_eq, not_true_eq_false, if_false, and_self]

theorem parseSntpReply_transmitTimestamp {T : ℝ} (hT : 0 ≤ T) (hT' : T < 2 ^ 32)
    (hne : transmitTimestamp T ≠ 0) (h : IsServerReply buf (transmitTimestamp T)) :
    ∃ t : SystemTime, parseSntpReply buf = .ok t ∧ t ≤ T * 10 ^ 9 ∧ T * 10 ^ 9 < t + 2 := by
  unfold transmitTimestamp at hne h
  have hpos : 0 ≤ (T + ntpUnixOffset) * 2 ^ 32 := by positivity
  have hle := Nat.floor_le hpos
  have hlt := Nat.lt_floor_add_one ((T + ntpUnixOffset) * 2 ^ 32)
  generalize ⌊(T + ntpUnixOffset) * 2 ^ 32⌋₊ = n at hne h hle hlt
  have hn : ntpUnixOffset * 2 ^ 32 ≤ n := by
    have hcast : ((ntpUnixOffset * 2 ^ 32 : ℕ) : ℝ) < n + 1 := by
      push_cast
      linarith [mul_nonneg hT (by norm_num : (0 : ℝ) ≤ 2 ^ 32)]
    exact Nat.lt_succ_iff.1 (by exact_mod_cast hcast)
  have hn' : n < (2 ^ 32 + ntpUnixOffset) * 2 ^ 32 := by
    have hcast : (n : ℝ) < ((2 ^ 32 + ntpUnixOffset) * 2 ^ 32 : ℕ) := by
      push_cast
      linarith
    exact_mod_cast hcast
  have hs : ntpUnixOffset ≤ n / 2 ^ 32 := (Nat.le_div_iff_mul_le (by norm_num)).2 hn
  refine ⟨_, parseSntpReply_of_isServerReply h hne hs
    (Nat.div_lt_of_lt_mul (by rwa [mul_comm])), ?_⟩
  have hsplit := Nat.div_add_mod n (2 ^ 32)
  have hfrac := Nat.div_add_mod (n % 2 ^ 32 * nanosPerSec) (2 ^ 32)
  have hrest := Nat.mod_lt (n % 2 ^ 32 * nanosPerSec) (show 0 < 2 ^ 32 by norm_num)
  generalize n / 2 ^ 32 = s at hs hsplit ⊢
  generalize n % 2 ^ 32 * nanosPerSec / 2 ^ 32 = nanos at hfrac ⊢
  generalize n % 2 ^ 32 * nanosPerSec % 2 ^ 32 = rest at hfrac hrest
  generalize n % 2 ^ 32 = frac at hsplit hfrac
  have hn : (n : ℝ) = 2 ^ 32 * s + frac := by exact_mod_cast hsplit.symm
  have hnanos : (2 ^ 32 * nanos + rest : ℝ) = frac * 10 ^ 9 := by exact_mod_cast hfrac
  have hrest : (rest : ℝ) < 2 ^ 32 := by exact_mod_cast hrest
  have hrest' : (0 : ℝ) ≤ rest := Nat.cast_nonneg rest
  have hperSec : (nanosPerSec : ℝ) = 10 ^ 9 := by norm_num [nanosPerSec]
  rw [Int.cast_natCast, Nat.cast_add, Nat.cast_mul, Nat.cast_sub hs, hperSec]
  constructor <;> linarith

/-! ## What the clock is set to -/

def IsUsable (now floor t : SystemTime) : Prop :=
  now < t ∧ floor < t ∧ t ≤ floor + maxPlausibleAhead

instance (now floor t : SystemTime) : Decidable (IsUsable now floor t) :=
  inferInstanceAs (Decidable (_ ∧ _))

def times (servers : List (Net.SocketAddr × Except String (List UInt8))) : List SystemTime :=
  servers.filterMap fun s => (sntpQuery s.2).toOption

theorem clock_askServers (clockSettime : SystemTime → Except String Unit) (now floor : SystemTime)
    (servers : List (Net.SocketAddr × Except String (List UInt8))) :
    (askServers clockSettime now floor servers).clock = [] ∨
      ∃ t, (askServers clockSettime now floor servers).clock = [t] ∧
        (times servers).find? (IsUsable now floor ·) = some t := by
  induction servers with
  | nil => exact .inl rfl
  | cons s servers ih =>
    obtain ⟨server, reply⟩ := s
    cases ht : sntpQuery reply with
    | error e =>
      have htimes : times ((server, reply) :: servers) = times servers := by
        simp [times, ht, Except.toOption]
      rw [askServers, ht, htimes]
      exact ih
    | ok t =>
      have hskip (hunusable : ¬IsUsable now floor t) :
          (times ((server, reply) :: servers)).find? (IsUsable now floor ·) =
            (times servers).find? (IsUsable now floor ·) := by
        simp [times, ht, Except.toOption, hunusable]
      by_cases hbehind : t ≤ now ∨ t ≤ floor
      · rw [hskip fun h => hbehind.elim h.1.not_ge h.2.1.not_ge]
        simpa [askServers, ht, hbehind] using ih
      · cases hlatest : addDuration floor maxPlausibleAhead with
        | none => simp [askServers, ht, hbehind, hlatest]
        | some latest =>
          obtain rfl : floor + maxPlausibleAhead = latest := by
            unfold addDuration at hlatest
            split at hlatest
            · exact Option.some.inj hlatest
            · cases hlatest
          by_cases hfar : t > floor + maxPlausibleAhead
          · rw [hskip fun h => hfar.not_ge h.2.2]
            simpa [askServers, ht, hbehind, hlatest, hfar] using ih
          · have husable : IsUsable now floor t :=
              ⟨not_le.1 fun h => hbehind (.inl h), not_le.1 fun h => hbehind (.inr h),
              not_lt.1 hfar⟩
            cases hset : setClock clockSettime t with
            | error e => simp [askServers, ht, hbehind, hlatest, hfar, hset]
            | ok u => simp [askServers, ht, hbehind, hlatest, hfar, hset, times, Except.toOption,
                husable]

/-- The time of a valid reply is that of its transmit timestamp up to two nanoseconds. The clock
is set once at most, to the first time that is ahead of the clock and of the build, by fifteen
years at most. -/
theorem bootstrap_sets_first_usable_time :
    (∀ (T : ℝ) (buf : List UInt8), 0 ≤ T → T < 2 ^ 32 → transmitTimestamp T ≠ 0 →
      IsServerReply buf (transmitTimestamp T) →
        ∃ t : SystemTime, parseSntpReply buf = .ok t ∧ t ≤ T * 10 ^ 9 ∧ T * 10 ^ 9 < t + 2) ∧
    ∀ clockSettime now floor servers,
      (bootstrap clockSettime now floor servers).clock = [] ∨
        ∃ t, (bootstrap clockSettime now floor servers).clock = [t] ∧ now < t ∧ floor < t ∧
          t ≤ floor + maxPlausibleAhead ∧
            (times servers).find? (IsUsable now floor ·) = some t := by
  refine ⟨fun T buf hT hT' hne h => parseSntpReply_transmitTimestamp hT hT' hne h, ?_⟩
  intro clockSettime now floor servers
  unfold bootstrap
  split
  · exact .inl rfl
  · rcases clock_askServers clockSettime now floor servers with hclock | ⟨t, hclock, hfirst⟩
    · exact .inl hclock
    · obtain ⟨hnow, hfloor, hahead⟩ : IsUsable now floor t := by simpa using List.find?_some hfirst
      exact .inr ⟨t, hclock, hnow, hfloor, hahead, hfirst⟩

def sampleReply : List UInt8 := [0x24, 2] ++ List.replicate 38 0 ++ beBytes 8 (3976214400 * 2 ^ 32)

theorem bootstrap_sets_first_usable_time_sample :
    (∃ t : SystemTime, parseSntpReply sampleReply = .ok t ∧ t ≤ (1767225600 : ℝ) * 10 ^ 9 ∧
      (1767225600 : ℝ) * 10 ^ 9 < t + 2) ∧
    ∃ t, (bootstrap (fun _ => .ok ()) 0 1700000000000000000
      [(⟨.v4 ⟨192, 0, 2, 1⟩, 123⟩, .ok sampleReply)]).clock = [t] ∧ 0 < t := by
  have htimestamp : transmitTimestamp 1767225600 = 3976214400 * 2 ^ 32 := by
    norm_num [transmitTimestamp, ntpUnixOffset]
  obtain ⟨hparse, hclock⟩ := bootstrap_sets_first_usable_time
  refine ⟨hparse _ _ (by norm_num) (by norm_num) (by rw [htimestamp]; norm_num) ?_, ?_⟩
  · rw [htimestamp]
    constructor <;> decide
  · rcases hclock (fun _ => .ok ()) 0 1700000000000000000
      [(⟨.v4 ⟨192, 0, 2, 1⟩, 123⟩, .ok sampleReply)] with hnone | ⟨t, ht, hpos, -⟩
    · exact absurd hnone (by decide)
    · exact ⟨t, ht, hpos⟩

end ClockBootstrap
