import Anyserial.Linux.RS485Properties

/-! The RS-485 codec as a whole: which configurations have an encoding, and what
overlaying one on a payload of the kernel leaves alone. -/
set_option autoImplicit false

namespace Anyserial.Linux

open Kit Posix

section Delays

variable {delay later : Number} {seconds : ℚ} {config : RS485Config} {state : RS485State}

/-- The delay is an integer, or a float whose milliseconds are still a finite double. -/
def MillisecondsFinite (delay : Number) : Prop :=
  (∃ n, delay = .int n) ∨ ∃ seconds, delay = .float (.finite seconds) ∧ seconds * 1000 < doubleOverflow

/-- `word` is the delay in milliseconds: a double, rounded and clamped to the field of the
struct. Where it is not clamped, it is off by the two roundings at most. -/
structure MillisecondsOf (delay : Number) (word : Nat) : Prop where
  bounded : word < 2 ^ 32
  rounded : ∀ seconds, delay.value = .finite seconds →
    (word : Int) = min (roundHalfEven (binary64.round (seconds * 1000))) delayMsMax
  near : ∀ seconds, delay.value = .finite seconds → seconds * 1000 ≤ delayMsMax →
    |(word : ℚ) - seconds * 1000| ≤ 1 / 2 + 1 / 2 ^ 21

theorem nonneg_of_accepted (accepted : delay.value.lt (.finite 0) = false) (number : delay.value = .finite seconds) :
    0 ≤ seconds := by
  rw [number] at accepted
  simpa [ExtendedRational.lt] using accepted

theorem eq_zero_of_le (accepted : delay.value.lt (.finite 0) = false) (number : delay.value = .finite seconds)
    (zero : delay.value.le (.finite 0) = true) : seconds = 0 := by
  rw [number] at zero
  have less : seconds ≤ 0 := by
    rcases Bool.or_eq_true_iff.mp zero with less | same
    · exact (of_decide_eq_true less).le
    · have same : seconds = 0 := by simpa using same
      exact same.le
  exact le_antisymm less (nonneg_of_accepted accepted number)

theorem round_delayMsMax : binary64.round (delayMsMax : ℚ) = delayMsMax :=
  binary64.round_natCast (by decide) (by decide)

/-- An integer that the clamp leaves alone is a double. -/
theorem clamped_int {n : Int} (nonneg : 0 ≤ n) :
    min n delayMsMax = min (roundHalfEven (binary64.round n)) (delayMsMax : Int) := by
  obtain ⟨n, rfl⟩ := Int.eq_ofNat_of_zero_le nonneg
  by_cases small : n ≤ delayMsMax
  · have same : binary64.round (n : ℚ) = n := by
      refine binary64.round_natCast (small.trans_lt (by decide)) (by decide)
    have rounded : roundHalfEven (n : ℚ) = n := by exact_mod_cast roundHalfEven_intCast n
    rw [Int.cast_natCast, same, rounded]
  · have le : (delayMsMax : ℚ) ≤ n := by exact_mod_cast (Nat.not_le.mp small).le
    have kept := roundHalfEven_mono (round_delayMsMax ▸ binary64.round_mono (Nat.cast_nonneg _) le)
    have limit : roundHalfEven (delayMsMax : ℚ) = delayMsMax := by exact_mod_cast roundHalfEven_intCast delayMsMax
    rw [limit] at kept
    rw [Int.cast_natCast, min_eq_right kept, min_eq_right (by omega)]

/-- What `round` gives is clamped. -/
theorem secondsToMs_of_round {product : Int} (above : delay.value.le (.finite 0) = false) (nonneg : 0 ≤ product)
    (rounded : roundNumber (delay.scale 1000) = .ok product) :
    ∃ ms, secondsToMs delay = .ok ms ∧ (ms : Int) = min product delayMsMax := by
  simp only [secondsToMs, above, Bool.false_eq_true, if_false, rounded, bind, Except.bind, pure, Except.pure]
  rw [if_neg (Int.not_lt.mpr nonneg)]
  by_cases large : (delayMsMax : Int) < product
  · exact ⟨delayMsMax, if_pos large, (min_eq_right large.le).symm⟩
  · refine ⟨_, if_neg large, ?_⟩
    rw [Int.toNat_of_nonneg nonneg, min_eq_left (Int.not_lt.mp large)]

/-- A product that stays finite is rounded and clamped. -/
theorem secondsToMs_of_finite (accepted : delay.value.lt (.finite 0) = false) (finite : MillisecondsFinite delay) :
    ∃ ms seconds, secondsToMs delay = .ok ms ∧ delay.value = .finite seconds ∧
      (ms : Int) = min (roundHalfEven (binary64.round (seconds * 1000))) delayMsMax := by
  obtain ⟨seconds, number⟩ : ∃ seconds, delay.value = .finite seconds := by
    obtain ⟨n, rfl⟩ | ⟨seconds, rfl, _⟩ := finite
    · exact ⟨n, rfl⟩
    · exact ⟨seconds, rfl⟩
  have nonneg := nonneg_of_accepted accepted number
  by_cases zero : delay.value.le (.finite 0) = true
  · refine ⟨0, seconds, by rw [secondsToMs, if_pos zero], number, ?_⟩
    rw [eq_zero_of_le accepted number zero]
    decide +kernel
  rw [Bool.not_eq_true] at zero
  obtain ⟨n, rfl⟩ | ⟨seconds, rfl, small⟩ := finite
  · have positive : 0 ≤ n * 1000 := by
      cases number
      exact mul_nonneg (by exact_mod_cast nonneg) (by decide)
    obtain ⟨ms, converted, word⟩ := secondsToMs_of_round zero positive rfl
    refine ⟨ms, n, converted, rfl, ?_⟩
    rw [word, clamped_int positive]
    push_cast
    rfl
  · cases number
    have size : |seconds * 1000| < binary64.limit := by rwa [abs_of_nonneg (by positivity)]
    have rounded : roundNumber ((Number.float (.finite seconds)).scale 1000) =
        .ok (roundHalfEven (binary64.round (seconds * 1000))) := by
      simp only [Number.scale, ExtendedRational.scale, Nat.cast_ofNat, size, if_true, roundNumber]
    obtain ⟨ms, converted, word⟩ :=
      secondsToMs_of_round zero (roundHalfEven_nonneg (binary64.round_nonneg (by positivity))) rounded
    exact ⟨ms, seconds, converted, rfl, word⟩

/-- A delay that `__post_init__` accepts but whose milliseconds are no finite double
makes `round` raise. -/
theorem secondsToMs_of_not_finite (accepted : delay.value.lt (.finite 0) = false) (infinite : ¬MillisecondsFinite delay) :
    ∃ exc, secondsToMs delay = .error exc := by
  cases delay with
  | int n => exact absurd (.inl ⟨n, rfl⟩) infinite
  | float number =>
    cases number with
    | nan => exact ⟨_, rfl⟩
    | posInf => exact ⟨_, rfl⟩
    | negInf => exact absurd accepted (by decide)
    | finite seconds =>
      have nonneg := nonneg_of_accepted accepted rfl
      have large : ¬seconds * 1000 < doubleOverflow := fun small => infinite (.inr ⟨seconds, rfl, small⟩)
      have overflow : (0 : ℚ) < doubleOverflow := sub_pos.mpr (pow_lt_pow_right₀ (by norm_num) (by norm_num))
      have positive : 0 < seconds := by
        rcases nonneg.lt_or_eq with positive | zero
        · exact positive
        · exact absurd overflow (by rw [← zero, zero_mul] at large; exact large)
      have above : (ExtendedRational.finite seconds).le (.finite 0) = false := by
        have ne : seconds ≠ 0 := positive.ne'
        simp [ExtendedRational.le, ExtendedRational.lt, nonneg, ne]
      have scaled : (ExtendedRational.finite seconds).scale binary64 1000 = .posInf := by
        have size : ¬|seconds * 1000| < binary64.limit := by rwa [abs_of_nonneg (by positivity)]
        simp only [ExtendedRational.scale, size, if_false, positive, if_true]
      simp only [secondsToMs, Number.value, above, Number.scale, Nat.cast_ofNat, scaled]
      exact ⟨_, rfl⟩

/-- Up to the largest word a product of doubles is off by a part of 2 ^ 21 at most. -/
theorem abs_round_sub_le_of_le {product : ℚ} (nonneg : 0 ≤ product) (small : product ≤ delayMsMax) :
    |binary64.round product - product| ≤ 1 / 2 ^ 21 := by
  rcases nonneg.eq_or_lt with rfl | positive
  · simp
  have bound : product < 2 ^ ((-20 : ℤ) + (52 : ℕ) + 1) := small.trans_lt (by norm_num [delayMsMax])
  have place : binary64.exponent product ≤ -20 := binary64.exponent_le_of_lt positive bound (by decide)
  have unit : binary64.unit product ≤ 2 ^ (-20 : ℤ) := zpow_le_zpow_right₀ one_le_two place
  calc |binary64.round product - product| ≤ binary64.unit product / 2 := binary64.abs_round_sub_le product
    _ ≤ 2 ^ (-20 : ℤ) / 2 := by gcongr
    _ = 1 / 2 ^ 21 := by norm_num

theorem near_of_rounded {ms : Nat} (nonneg : 0 ≤ seconds)
    (word : (ms : Int) = min (roundHalfEven (binary64.round (seconds * 1000))) delayMsMax) (small : seconds * 1000 ≤ delayMsMax) :
    |(ms : ℚ) - seconds * 1000| ≤ 1 / 2 + 1 / 2 ^ 21 := by
  let product := binary64.round (seconds * 1000)
  have unclamped : |(roundHalfEven product : ℚ) - seconds * 1000| ≤ 1 / 2 + 1 / 2 ^ 21 := by
    calc |(roundHalfEven product : ℚ) - seconds * 1000|
        ≤ |(roundHalfEven product : ℚ) - product| + |product - seconds * 1000| := abs_sub_le _ _ _
      _ ≤ 1 / 2 + 1 / 2 ^ 21 := add_le_add (abs_roundHalfEven_sub_le _) (abs_round_sub_le_of_le (by positivity) small)
  have kept : roundHalfEven product ≤ delayMsMax := by
    have rounded := roundHalfEven_mono (binary64.round_mono (by positivity) small)
    have limit : roundHalfEven (delayMsMax : ℚ) = delayMsMax := by exact_mod_cast roundHalfEven_intCast delayMsMax
    rwa [round_delayMsMax, limit] at rounded
  have same : (ms : Int) = roundHalfEven product := word.trans (min_eq_left kept)
  have cast : (ms : ℚ) = roundHalfEven product := by exact_mod_cast congrArg (Int.cast (R := ℚ)) same
  rwa [cast]

theorem secondsToMs_spec (accepted : delay.value.lt (.finite 0) = false) {ms : Nat} (converted : secondsToMs delay = .ok ms) :
    MillisecondsFinite delay ∧ MillisecondsOf delay ms := by
  by_cases finite : MillisecondsFinite delay
  · obtain ⟨other, seconds, same, number, word⟩ := secondsToMs_of_finite accepted finite
    cases converted.symm.trans same
    refine ⟨finite, ?_⟩
    constructor
    case bounded => exact Nat.lt_succ_of_le (secondsToMs_le converted)
    case rounded =>
      intro other same
      cases number.symm.trans same
      exact word
    case near =>
      intro other same small
      cases number.symm.trans same
      exact near_of_rounded (nonneg_of_accepted accepted number) word small
  · obtain ⟨exc, failed⟩ := secondsToMs_of_not_finite accepted finite
    cases converted.symm.trans failed

/-- A product of doubles that is a half already goes to the even side: `0.0005` and `0.0025`. -/
example : secondsToMs (.float (.finite (0x10624DD2F1A9FC / 2 ^ 63))) = .ok 0 ∧
    secondsToMs (.float (.finite (0x147AE147AE147B / 2 ^ 61))) = .ok 2 := by decide +kernel

/-- A longer delay never gets a smaller word. -/
theorem secondsToMs_mono (accepted : delay.value.lt (.finite 0) = false) (accepted' : later.value.lt (.finite 0) = false)
    (le : delay.value.le later.value = true) {ms ms' : Nat} (converted : secondsToMs delay = .ok ms)
    (converted' : secondsToMs later = .ok ms') : ms ≤ ms' := by
  obtain ⟨_, first, same, number, word⟩ := secondsToMs_of_finite accepted (secondsToMs_spec accepted converted).1
  obtain ⟨_, second, same', number', word'⟩ := secondsToMs_of_finite accepted' (secondsToMs_spec accepted' converted').1
  cases converted.symm.trans same
  cases converted'.symm.trans same'
  rw [number, number'] at le
  have less : first ≤ second := by
    rcases Bool.or_eq_true_iff.mp le with less | equal
    · exact (of_decide_eq_true less).le
    · have equal : first = second := by simpa using equal
      exact equal.le
  have nonneg := nonneg_of_accepted accepted number
  have products : first * 1000 ≤ second * 1000 := mul_le_mul_of_nonneg_right less (by norm_num)
  have rounded := roundHalfEven_mono (binary64.round_mono (by positivity) products)
  have words : (ms : Int) ≤ ms' := by
    rw [word, word']
    exact min_le_min_right _ rounded
  exact Int.ofNat_le.mp words

/-- Both delays of the configuration have finite milliseconds. -/
def DelaysEncodable (config : RS485Config) : Prop :=
  MillisecondsFinite config.delayBeforeSend ∧ MillisecondsFinite config.delayAfterSend

/-- The flag word of a configuration. -/
def configFlags (config : RS485Config) : Nat :=
  flagWhen config.enabled serRs485Enabled ||| flagWhen config.rtsOnSend serRs485RtsOnSend |||
    flagWhen config.rtsAfterSend serRs485RtsAfterSend ||| flagWhen config.rxDuringTx serRs485RxDuringTx

theorem fromConfig_cases (built : fromConfig config = .ok state) :
    ∃ before after, secondsToMs config.delayBeforeSend = .ok before ∧ secondsToMs config.delayAfterSend = .ok after ∧
      state = { flags := configFlags config, delayRtsBeforeSend := before, delayRtsAfterSend := after } := by
  cases before : secondsToMs config.delayBeforeSend with
  | error exc => simp [fromConfig, before, bind, Except.bind] at built
  | ok first =>
    cases after : secondsToMs config.delayAfterSend with
    | error exc => simp [fromConfig, before, after, bind, Except.bind] at built
    | ok second =>
      simp only [fromConfig, before, after, bind, Except.bind, pure, Except.pure, Except.ok.injEq] at built
      exact ⟨first, second, rfl, rfl, built.symm⟩

theorem configFlags_lt (config : RS485Config) : configFlags config < 2 ^ 5 := by
  unfold configFlags
  cases config.enabled <;> cases config.rtsOnSend <;> cases config.rtsAfterSend <;> cases config.rxDuringTx <;> decide

theorem delaysEncodable_of_ok (built : fromConfig config = .ok state) : DelaysEncodable config := by
  obtain ⟨_, _, before, after, _⟩ := fromConfig_cases built
  exact ⟨(secondsToMs_spec config.beforeAccepted before).1, (secondsToMs_spec config.afterAccepted after).1⟩

theorem fromConfig_of_encodable (encodable : DelaysEncodable config) : ∃ state, fromConfig config = .ok state := by
  obtain ⟨before, after⟩ := encodable
  obtain ⟨ms, _, converted, _⟩ := secondsToMs_of_finite config.beforeAccepted before
  obtain ⟨ms', _, converted', _⟩ := secondsToMs_of_finite config.afterAccepted after
  simp only [fromConfig, converted, converted', bind, Except.bind, pure, Except.pure]
  exact ⟨_, rfl⟩

theorem fromConfig_fits (built : fromConfig config = .ok state) : state.Fits := by
  obtain ⟨_, _, before, after, rfl⟩ := fromConfig_cases built
  have flags : configFlags config < 2 ^ 32 := (configFlags_lt config).trans (by decide)
  exact ⟨flags, Nat.lt_succ_of_le (secondsToMs_le before), Nat.lt_succ_of_le (secondsToMs_le after),
    Nat.two_pow_pos 8, Nat.two_pow_pos 8⟩

/-- The configuration has an encoding, and it is the one that is asked for. -/
def Encodes (config : RS485Config) : Prop :=
  ∃ state, fromConfig config = .ok state ∧ MillisecondsOf config.delayBeforeSend state.delayRtsBeforeSend ∧
    MillisecondsOf config.delayAfterSend state.delayRtsAfterSend ∧ ∃ payload, state.toBytes = .ok payload

/-- An accepted configuration is encodable exactly when its delays have finite milliseconds,
and the words grow with the delays. -/
theorem rs485_encodes_iff (config : RS485Config) :
    (Encodes config ↔ DelaysEncodable config) ∧
      ∀ (other : RS485Config) (state state' : RS485State), fromConfig config = .ok state → fromConfig other = .ok state' →
        (config.delayBeforeSend.value.le other.delayBeforeSend.value = true → state.delayRtsBeforeSend ≤ state'.delayRtsBeforeSend) ∧
          (config.delayAfterSend.value.le other.delayAfterSend.value = true → state.delayRtsAfterSend ≤ state'.delayRtsAfterSend) := by
  constructor
  · constructor
    · intro encodes
      obtain ⟨state, built, _⟩ := encodes
      exact delaysEncodable_of_ok built
    · intro encodable
      obtain ⟨state, built⟩ := fromConfig_of_encodable encodable
      have encoded := (fromConfig_fits built).toBytes_ok
      obtain ⟨_, _, before, after, rfl⟩ := fromConfig_cases built
      exact ⟨_, built, (secondsToMs_spec config.beforeAccepted before).2,
        (secondsToMs_spec config.afterAccepted after).2, encoded⟩
  · intro other state state' built built'
    obtain ⟨_, _, before, after, rfl⟩ := fromConfig_cases built
    obtain ⟨_, _, before', after', rfl⟩ := fromConfig_cases built'
    constructor
    · exact fun le => secondsToMs_mono config.beforeAccepted other.beforeAccepted le before before'
    · exact fun le => secondsToMs_mono config.afterAccepted other.afterAccepted le after after'

/-- A delay that is not a number passes the check and has no encoding. -/
theorem nan_delay_has_no_encoding : ¬∀ config : RS485Config, Encodes config := by
  intro encodes
  obtain ⟨state, built, _⟩ := encodes { delayBeforeSend := .float .nan }
  cases built

end Delays

section Overlay

variable {payload merged : Bytes} {config : RS485Config} {state : RS485State}

/-- What an apply writes over the payload it has read. -/
def overlay (payload : Bytes) (config : RS485Config) : Except PyExc Bytes := do
  let current ← RS485State.fromBytes payload
  let merged ← current.withFlagsFrom config
  merged.toBytes

/-- `merged` is `payload` but for what the configuration owns: four flags and two words. -/
structure Overlays (payload : Bytes) (config : RS485Config) (merged : Bytes) : Prop where
  size : merged.length = serRs485Size
  owned : (RS485State.decode merged).flags &&& ownedMask = configFlags config
  foreign : clearBits (RS485State.decode merged).flags ownedMask = clearBits (RS485State.decode payload).flags ownedMask
  delays : ∃ encoded, fromConfig config = .ok encoded ∧
    (RS485State.decode merged).delayRtsBeforeSend = encoded.delayRtsBeforeSend ∧
    (RS485State.decode merged).delayRtsAfterSend = encoded.delayRtsAfterSend
  rest : merged.drop 12 = (payload.take serRs485Size).drop 12

/-- The two directions of the codec, and what it does with the wrong size. -/
structure CodecLaws : Prop where
  decodes : ∀ payload, ZeroPadded payload → (RS485State.fromBytes payload >>= RS485State.toBytes) = .ok payload
  encodes : ∀ state : RS485State, state.Fits → (state.toBytes >>= RS485State.fromBytes) = .ok state
  trailing : ∀ payload extra : Bytes, payload.length = serRs485Size →
    RS485State.fromBytes (payload ++ extra) = RS485State.fromBytes payload
  short : ∀ payload : Bytes, payload.length < serRs485Size →
    ∃ message, RS485State.fromBytes payload = .error (.valueError message)

theorem RS485State.decode_take (payload : Bytes) : decode (payload.take serRs485Size) = decode payload := by
  simp [decode, serRs485Size, List.take_take, List.drop_take, List.head?_take]

theorem RS485State.fromBytes_toBytes (fits : state.Fits) (packed : state.toBytes = .ok payload) :
    fromBytes payload = .ok state := by
  rw [fromBytes_of_zeroPadded (toBytes_zeroPadded packed), decode_toBytes fits packed]

theorem codecLaws : CodecLaws := by
  constructor
  case decodes =>
    intro payload padded
    rw [RS485State.fromBytes_of_zeroPadded padded]
    exact RS485State.toBytes_decode padded
  case encodes =>
    intro state fits
    obtain ⟨payload, packed⟩ := fits.toBytes_ok
    rw [packed]
    exact RS485State.fromBytes_toBytes fits packed
  case trailing =>
    intro payload extra size
    have long : ¬(payload ++ extra).length < serRs485Size := by
      rw [List.length_append]
      omega
    have same : RS485State.decode (payload ++ extra) = RS485State.decode payload := by
      rw [← RS485State.decode_take, ← size, List.take_left]
    rw [RS485State.fromBytes, if_neg long, same, RS485State.fromBytes, if_neg (by omega)]
  case short =>
    intro payload size
    exact ⟨_, if_pos size⟩

theorem RS485State.toBytes_drop (packed : state.toBytes = .ok payload) :
    payload.drop 12 = [BitVec.ofNat 8 state.addrRecv, BitVec.ofNat 8 state.addrDest] ++ padding := by
  unfold toBytes at packed
  split at packed
  · cases packed
    rfl
  · cases packed

theorem configFlags_owned (config : RS485Config) : configFlags config &&& ownedMask &&& ownedMask = configFlags config := by
  unfold configFlags
  cases config.enabled <;> cases config.rtsOnSend <;> cases config.rtsAfterSend <;> cases config.rxDuringTx <;> decide

/-- An overlay goes through when the configuration has an encoding, and not otherwise. -/
theorem overlay_cases (config : RS485Config) (size : serRs485Size ≤ payload.length) :
    (∃ state merged, fromConfig config = .ok state ∧ (RS485State.decode payload).withFlagsFrom config = .ok merged ∧
      ∃ written, merged.toBytes = .ok written ∧ overlay payload config = .ok written) ∨
    ∃ exc, fromConfig config = .error exc ∧ overlay payload config = .error exc := by
  have read : RS485State.fromBytes payload = .ok (.decode payload) := if_neg (by omega)
  cases built : fromConfig config with
  | error exc =>
    refine .inr ⟨exc, rfl, ?_⟩
    simp [overlay, read, RS485State.withFlagsFrom, built, bind, Except.bind]
  | ok state =>
    obtain ⟨merged, kept⟩ : ∃ merged, (RS485State.decode payload).withFlagsFrom config = .ok merged := by
      rw [RS485State.withFlagsFrom, built]
      exact ⟨_, rfl⟩
    obtain ⟨written, packed⟩ := (RS485State.withFlagsFrom_fits (RS485State.decode_fits payload) kept).toBytes_ok
    refine .inl ⟨state, merged, rfl, kept, written, packed, ?_⟩
    simp only [overlay, read, kept, packed, bind, Except.bind]

theorem overlays_of_ok (padded : ZeroPadded (payload.take serRs485Size)) (written : overlay payload config = .ok merged) :
    Overlays payload config merged := by
  have size : serRs485Size ≤ payload.length := by
    have taken := padded.size
    rw [List.length_take] at taken
    omega
  obtain ⟨encoded, state, built, kept, bytes, packed, same⟩ | ⟨exc, _, failed⟩ := overlay_cases config size
  · cases written.symm.trans same
    have fits := RS485State.withFlagsFrom_fits (RS485State.decode_fits payload) kept
    have decoded := RS485State.decode_toBytes fits packed
    have original : (RS485State.decode payload).toBytes = .ok (payload.take serRs485Size) := by
      rw [← RS485State.decode_take]
      exact RS485State.toBytes_decode padded
    obtain ⟨before, after, _, _, rfl⟩ := fromConfig_cases built
    simp only [RS485State.withFlagsFrom, built, bind, Except.bind, pure, Except.pure, Except.ok.injEq] at kept
    subst kept
    constructor
    case size => exact (RS485State.toBytes_zeroPadded packed).size
    case owned =>
      rw [decoded]
      simp only [clearBits_eq_assign, assign_or]
      rw [assign_and_within (Nat.and_self _), configFlags_owned]
    case foreign =>
      rw [decoded]
      simp only [clearBits_eq_assign, assign_or]
      exact assign_clear (by rw [Nat.and_assoc, Nat.and_self])
    case delays =>
      rw [decoded]
      exact ⟨_, built, rfl, rfl⟩
    case rest => rw [RS485State.toBytes_drop packed, RS485State.toBytes_drop original]
  · cases written.symm.trans failed

/-- A second overlay leaves no trace of the first. -/
theorem overlay_overlay {first : RS485Config} (size : serRs485Size ≤ payload.length)
    (written : overlay payload first = .ok merged) : overlay merged config = overlay payload config := by
  obtain ⟨encoded, state, built, kept, bytes, packed, same⟩ | ⟨exc, _, failed⟩ := overlay_cases first size
  · cases written.symm.trans same
    have fits := RS485State.withFlagsFrom_fits (RS485State.decode_fits payload) kept
    have read : RS485State.fromBytes payload = .ok (.decode payload) := if_neg (by omega)
    simp only [overlay, RS485State.fromBytes_toBytes fits packed, read, bind, Except.bind, withFlagsFrom_withFlagsFrom kept]
  · cases written.symm.trans failed

/-- Both overlays go through and touch what their configuration owns only, and the second
one forgets the first. -/
structure Merges (payload : Bytes) (earlier config : RS485Config) : Prop where
  firstWritten : ∃ merged, overlay payload earlier = .ok merged ∧ Overlays payload earlier merged
  written : ∃ merged, overlay payload config = .ok merged ∧ Overlays payload config merged
  forgets : (do overlay (← overlay payload earlier) config) = overlay payload config

theorem overlay_of_encodable (padded : ZeroPadded (payload.take serRs485Size)) (size : serRs485Size ≤ payload.length)
    (encodable : DelaysEncodable config) : ∃ merged, overlay payload config = .ok merged ∧ Overlays payload config merged := by
  obtain ⟨state, built⟩ := fromConfig_of_encodable encodable
  obtain ⟨_, _, _, _, merged, _, written⟩ | ⟨exc, failed, _⟩ := overlay_cases config size
  · exact ⟨merged, written, overlays_of_ok padded written⟩
  · cases built.symm.trans failed

theorem merges_iff {earlier : RS485Config} (padded : ZeroPadded (payload.take serRs485Size)) :
    Merges payload earlier config ↔ DelaysEncodable earlier ∧ DelaysEncodable config := by
  have size : serRs485Size ≤ payload.length := by
    have taken := padded.size
    rw [List.length_take] at taken
    omega
  constructor
  · intro merges
    obtain ⟨_, _, touched⟩ := merges.firstWritten
    obtain ⟨_, _, touched'⟩ := merges.written
    obtain ⟨_, built, _⟩ := touched.delays
    obtain ⟨_, built', _⟩ := touched'.delays
    exact ⟨delaysEncodable_of_ok built, delaysEncodable_of_ok built'⟩
  · intro encodable
    obtain ⟨first, second⟩ := encodable
    constructor
    case firstWritten => exact overlay_of_encodable padded size first
    case written => exact overlay_of_encodable padded size second
    case forgets =>
      obtain ⟨merged, written, _⟩ := overlay_of_encodable padded size first
      rw [written]
      exact overlay_overlay size written

/-- What `_apply_rs485` leaves in a device that refuses nothing is the overlay of its payload. -/
theorem applyRs485_overlays {world : LinuxWorld} {policy : UnsupportedPolicy} (held : world.host.Holds world.backend.fd)
    (probed : world.host.faults .tiocgrs485 .probe = none) (accepted : world.host.faults .tiocsrs485 .apply = none) :
    Ends (applyRs485 config policy) world
      (fun _ after => overlay world.host.device.rs485 config = .ok after.host.device.rs485)
      (fun exc _ => overlay world.host.device.rs485 config = .error exc) := by
  simp only [applyRs485, ends_bind, ends_getBackend, ends_exceptOSError, ends_map, ends_readRs485 held, probed]
  refine ⟨by simp, fun _ => ⟨fun current read => ?_, fun exc broken => ⟨fun isOSError => ?_, fun _ => ?_⟩⟩⟩
  · have heldAfter : (withSnapshot world current).host.Holds world.backend.fd := held
    simp only [ends_modifySlots, ends_liftExcept]
    refine ⟨fun merged kept => ?_, fun exc failed => ?_⟩
    · have unrefused : (withSnapshot world current).host.faults .tiocsrs485 .apply = none := accepted
      refine (ends_writeRs485 heldAfter).mpr ⟨fun bytes packed => ⟨fun err refused => ?_, fun _ => ?_⟩, fun exc failed => ?_⟩
      · cases unrefused.symm.trans refused
      · simp only [overlay, read, kept, packed, bind, Except.bind]
        rfl
      · have fits : current.Fits := by
          unfold RS485State.fromBytes at read
          split at read
          · cases read
          · cases read
            exact RS485State.decode_fits _
        exact absurd failed (RS485State.withFlagsFrom_fits fits kept).toBytes_ne_error
    · simp only [overlay, read, failed, bind, Except.bind]
  · unfold RS485State.fromBytes at broken
    split at broken
    · cases broken
      cases isOSError
    · cases broken
  · simp only [overlay, broken, bind, Except.bind]

/-- An overlay keeps all that the configuration does not own, and a later one forgets it,
exactly when both configurations have delays whose milliseconds are finite. -/
theorem rs485_overlay_iff (payload : Bytes) (earlier config : RS485Config) (padded : ZeroPadded (payload.take serRs485Size)) :
    (Merges payload earlier config ↔ DelaysEncodable earlier ∧ DelaysEncodable config) ∧ CodecLaws ∧
      ∀ (world : LinuxWorld) (policy : UnsupportedPolicy), world.host.Holds world.backend.fd →
        world.host.device.rs485 = payload → world.host.faults .tiocgrs485 .probe = none →
        world.host.faults .tiocsrs485 .apply = none →
        Ends (applyRs485 config policy) world (fun _ after => overlay payload config = .ok after.host.device.rs485)
          (fun exc _ => overlay payload config = .error exc) := by
  refine ⟨merges_iff padded, codecLaws, fun world policy held same probed accepted => ?_⟩
  subst same
  exact applyRs485_overlays held probed accepted

/-- A bus-termination flag, an address and a byte past the struct: the configuration owns none of them. -/
theorem rs485_overlay_keeps_termination :
    let payload : Bytes := packU32 0b100001 ++ packU32 7 ++ packU32 9 ++ [3, 4] ++ RS485State.padding ++ [1]
    Merges payload {} { delayBeforeSend := .float (.finite 1) } := by
  intro payload
  have small (seconds : ℚ) (one : seconds ≤ 1) : MillisecondsFinite (.float (.finite seconds)) := by
    refine .inr ⟨seconds, rfl, ?_⟩
    have large : (1000 : ℚ) < doubleOverflow := by decide +kernel
    linarith
  exact (rs485_overlay_iff payload {} { delayBeforeSend := .float (.finite 1) } ⟨rfl, rfl⟩).1.mpr
    ⟨⟨small 0 (by norm_num), small 0 (by norm_num)⟩, small 1 le_rfl, small 0 (by norm_num)⟩

/-- A finite delay whose milliseconds overflow a double makes the overlay raise. -/
theorem huge_delay_has_no_overlay :
    ¬∀ (payload : Bytes) (config : RS485Config), ZeroPadded (payload.take serRs485Size) →
      (∃ seconds, config.delayBeforeSend.value = .finite seconds) → (∃ seconds, config.delayAfterSend.value = .finite seconds) →
      ∃ merged, overlay payload config = .ok merged ∧ Overlays payload config merged := by
  intro overlays
  have accepted : (ExtendedRational.finite (10 ^ 306)).lt (.finite 0) = false := by decide +kernel
  let config : RS485Config := { delayBeforeSend := .float (.finite (10 ^ 306)), beforeAccepted := accepted }
  obtain ⟨merged, _, touched⟩ := overlays (List.replicate 32 0) config ⟨rfl, rfl⟩ ⟨_, rfl⟩ ⟨_, rfl⟩
  obtain ⟨encoded, built, _⟩ := touched.delays
  obtain ⟨⟨_, same⟩ | ⟨seconds, same, small⟩, _⟩ := delaysEncodable_of_ok built
  · cases same
  cases same
  exact absurd small (by decide +kernel)

end Overlay

end Anyserial.Linux
