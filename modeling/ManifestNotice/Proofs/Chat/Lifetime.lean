import ManifestNotice.Proofs.Chat.Grant
import ManifestNotice.Proofs.Json.Kept

/-!
# Lifetimes of tokens

Times are seconds in 64 bits with a sign, lifetimes in 64 bits without one. A
lifetime may take a sum past the last time; the sums that a client relies on come
out all the same, and what it keeps is the expiry that they give
(`lifetimes_never_overflow`).
-/

namespace ManifestNotice.Chat

open Json.Grammar

-- ---------------------------------------------------------------------------
-- Sums
-- ---------------------------------------------------------------------------

namespace Time

/-- The time some seconds later, if there is one. A sum past the last time comes
round, and out before the time that it starts from. -/
def plus? (time : Int64) (seconds : UInt64) : Option Int64 :=
  if time ≤ time + seconds.toInt64 then some (time + seconds.toInt64) else none

theorem toInt_toInt64 (seconds : UInt64) :
    seconds.toInt64.toInt = (seconds.toNat : Int).bmod 18446744073709551616 := by
  rw [← Int64.toInt_toBitVec]
  exact BitVec.toInt_eq_toNat_bmod _

theorem toInt_add_seconds (time : Int64) (seconds : UInt64) :
    (time + seconds.toInt64).toInt =
      if time.toInt + seconds.toNat < Token.timeLimit then time.toInt + seconds.toNat
      else time.toInt + seconds.toNat - 18446744073709551616 := by
  have hlow : -9223372036854775808 ≤ time.toInt := time.le_toInt
  have hhigh : time.toInt < 9223372036854775808 := time.toInt_lt
  have hseconds : seconds.toNat < 18446744073709551616 := seconds.toNat_lt
  have hlimit : (Token.timeLimit : Int) = 9223372036854775808 := rfl
  have hsum : (time + seconds.toInt64).toInt =
      (time.toInt + (seconds.toNat : Int)).bmod 18446744073709551616 := by
    rw [Int64.toInt_add, toInt_toInt64]
    exact Int.add_bmod_bmod ..
  rw [hsum, hlimit, Int.bmod_def]
  -- the sum is less than two turns from the lowest time, so it comes round once at most
  split <;> split <;> omega

section
variable {time later : Int64} {seconds : UInt64}

theorem plus?_eq_some_iff : plus? time seconds = some later ↔
    later.toInt = time.toInt + seconds.toNat := by
  have hhigh : later.toInt < 9223372036854775808 := later.toInt_lt
  have hseconds : seconds.toNat < 18446744073709551616 := seconds.toNat_lt
  have hlimit : (Token.timeLimit : Int) = 9223372036854775808 := rfl
  have hsum := toInt_add_seconds time seconds
  rw [hlimit] at hsum
  unfold plus?
  rw [Option.ite_none_right_eq_some, Option.some_inj, ← Int64.toInt_inj, Int64.le_iff_toInt_le]
  split at hsum <;> omega

theorem plus?_of_lt (h : time.toInt + seconds.toNat < Token.timeLimit) :
    ∃ later, plus? time seconds = some later ∧ later.toInt = time.toInt + seconds.toNat := by
  have hsum := toInt_add_seconds time seconds
  rw [if_pos h] at hsum
  exact ⟨_, plus?_eq_some_iff.mpr hsum, hsum⟩

theorem plus?_eq_none (h : ¬time.toInt + seconds.toNat < Token.timeLimit) :
    plus? time seconds = none := by
  rw [Option.eq_none_iff_forall_ne_some]
  intro later hlater
  rw [plus?_eq_some_iff] at hlater
  exact h (hlater ▸ later.toInt_lt)

end

end Time

-- ---------------------------------------------------------------------------
-- Expiries
-- ---------------------------------------------------------------------------

namespace Token

/-- When a token expires, if the sums for it come out. The usual expiry is worked
out for all tokens, also for those that come with a lifetime. -/
def expiry? (readAt : Int64) (lifetime : Option UInt64) : Option Int64 := do
  let usual ← Time.plus? readAt (.ofNat usualLifetime)
  pure ((lifetime.bind (Time.plus? readAt)).getD usual)

def freshAt? (expiry now : Int64) : Option Bool := do
  let soon ← Time.plus? now (.ofNat margin)
  pure (soon < expiry)

/-- The seconds that a token is good for. -/
def lasting (readAt : Int64) : Option UInt64 → Nat
  | some seconds =>
    if readAt.toInt + seconds.toNat < timeLimit then seconds.toNat else usualLifetime
  | none => usualLifetime

/-- What becomes of a lifetime: all sums come out, and the expiry is the one that
the lifetime gives. -/
structure Lasts (readAt : Int64) (lifetime : Option UInt64) (expiry : Int64) : Prop where
  sums : expiry? readAt lifetime = some expiry
  ends : expiry.toInt = readAt.toInt + lasting readAt lifetime
  ahead : readAt ≤ expiry
  fresh : ∀ now : Int64, now.toInt + margin < timeLimit →
    freshAt? expiry now = some (decide (now.toInt + margin < expiry.toInt))

section
variable {readAt expiry now : Int64} {lifetime : Option UInt64}

theorem toNat_usualLifetime : (UInt64.ofNat usualLifetime).toNat = usualLifetime := rfl

theorem toNat_margin : (UInt64.ofNat margin).toNat = margin := rfl

/-- A lifetime that takes the sum past the last time counts as none. -/
theorem exists_expiry? (lifetime : Option UInt64) (h : readAt.toInt + usualLifetime < timeLimit) :
    ∃ expiry, expiry? readAt lifetime = some expiry ∧
      expiry.toInt = readAt.toInt + lasting readAt lifetime := by
  obtain ⟨usual, husual, hends⟩ := Time.plus?_of_lt (toNat_usualLifetime ▸ h)
  rw [toNat_usualLifetime] at hends
  simp only [expiry?, husual]
  cases lifetime with
  | none => exact ⟨usual, rfl, hends⟩
  | some seconds =>
    by_cases hin : readAt.toInt + seconds.toNat < timeLimit
    · obtain ⟨later, hlater, hends⟩ := Time.plus?_of_lt hin
      refine ⟨later, by rw [Option.bind_some, hlater]; rfl, ?_⟩
      rw [hends, lasting, if_pos hin]
    · refine ⟨usual, by rw [Option.bind_some, Time.plus?_eq_none hin]; rfl, ?_⟩
      rw [hends, lasting, if_neg hin]

theorem freshAt?_of_lt (h : now.toInt + margin < timeLimit) :
    freshAt? expiry now = some (decide (now.toInt + margin < expiry.toInt)) := by
  obtain ⟨soon, hsoon, hends⟩ := Time.plus?_of_lt (toNat_margin ▸ h)
  rw [toNat_margin] at hends
  rw [freshAt?, hsoon, ← hends]
  exact congrArg some (decide_eq_decide.mpr Int64.lt_iff_toInt_lt)

theorem freshAt?_iff : freshAt? expiry now = some true ↔ now.toInt + margin < expiry.toInt := by
  constructor
  · intro h
    obtain ⟨soon, hsoon, hlt⟩ := Option.bind_eq_some_iff.mp h
    have hlt : soon < expiry := of_decide_eq_true (Option.some.inj hlt)
    rw [Int64.lt_iff_toInt_lt, Time.plus?_eq_some_iff.mp hsoon] at hlt
    exact hlt
  · intro h
    have hin : now.toInt + margin < timeLimit := Int.lt_trans h expiry.toInt_lt
    rw [freshAt?_of_lt hin, decide_eq_true h]

theorem exists_lasts (readAt : Int64) (lifetime : Option UInt64)
    (h : readAt.toInt + usualLifetime < timeLimit) :
    ∃ expiry, Lasts readAt lifetime expiry := by
  obtain ⟨expiry, hsums, hends⟩ := exists_expiry? lifetime h
  refine ⟨expiry, hsums, hends, ?_, fun now hnow => freshAt?_of_lt hnow⟩
  rw [Int64.le_iff_toInt_le, hends]
  exact Int.le_add_of_nonneg_right (Int.natCast_nonneg _)

/-- With a longer lifetime, as long as it does not count as none, a token is
fresh whenever it is with a shorter one. -/
theorem Lasts.longer {seconds more : UInt64} {later : Int64} (h : Lasts readAt (some seconds) expiry)
    (hmore : Lasts readAt (some more) later) (hle : seconds ≤ more)
    (hin : readAt.toInt + more.toNat < timeLimit) (hfresh : freshAt? expiry now = some true) :
    freshAt? later now = some true := by
  have hle : seconds.toNat ≤ more.toNat := hle
  have hend := h.ends
  have hlater := hmore.ends
  rw [lasting, if_pos (by omega)] at hend
  rw [lasting, if_pos hin] at hlater
  rw [freshAt?_iff] at hfresh ⊢
  omega

end

theorem expiryAt_eq {clock : Nat} {readAt : Int64} {lifetime : Option UInt64}
    (h : readAt.toInt = clock) :
    expiryAt clock (lifetime.map UInt64.toNat) = clock + lasting readAt lifetime := by
  cases lifetime with
  | none => rfl
  | some seconds =>
    have hin : readAt.toInt + seconds.toNat < timeLimit ↔ clock + seconds.toNat < timeLimit := by
      omega
    simp only [Option.map_some, expiryAt, lasting, hin]
    split <;> rfl

end Token

-- ---------------------------------------------------------------------------
-- Grants
-- ---------------------------------------------------------------------------

def Grant.Draft.Fits (draft : Grant.Draft) : Prop :=
  ∀ seconds, draft.lifetime.join = some seconds → seconds < Json.Numeral.wordLimit

theorem Grant.fields_keep_fits : ∀ field ∈ Grant.record.fields, Keeps Grant.Draft.Fits field := by
  intro field hfield before text after rest hbefore hread
  simp only [Grant.record, List.mem_cons, List.not_mem_nil, or_false] at hfield
  rcases hfield with rfl | rfl
  · obtain ⟨_, -, heq⟩ := map_eq_ok_iff.mp hread
    cases heq
    exact hbefore
  · obtain ⟨⟨lifetime, _⟩, hlifetime, heq⟩ := map_eq_ok_iff.mp hread
    cases heq
    rintro seconds rfl
    obtain ⟨_, hnatural⟩ := readOptional_some hlifetime
    exact readNatural_lt hnatural

theorem Grant.lifetime_lt (h : Grant.ofText text = .ok grant)
    (hlifetime : grant.lifetime = some seconds) : seconds < Json.Numeral.wordLimit := by
  obtain ⟨draft, hdraft, rfl⟩ := map_eq_ok_iff.mp h
  have hstart : Grant.record.start.Fits := fun _ hnone => nomatch hnone
  exact ofText_keeps Grant.fields_keep_fits hstart hdraft seconds hlifetime

theorem lifetime_of_grantOf (h : grantOf reply = .ok grant) :
    ∃ lifetime : Option UInt64, lifetime.map UInt64.toNat = grant.lifetime := by
  have hread : ∃ text, Grant.ofText text = .ok grant := by
    unfold grantOf at h
    split at h
    · cases h
    · next body _ =>
      split at h
      · split at h
        · next hread =>
          cases h
          exact ⟨_, hread⟩
        · cases h
      · split at h <;> cases h
  obtain ⟨text, hread⟩ := hread
  refine ⟨grant.lifetime.map UInt64.ofNat, ?_⟩
  cases hlifetime : grant.lifetime with
  | none => rfl
  | some seconds =>
    exact congrArg some (UInt64.toNat_ofNat_of_lt' (Grant.lifetime_lt hread hlifetime))

-- ---------------------------------------------------------------------------
-- Clients
-- ---------------------------------------------------------------------------

namespace Client

/-- No token is fresh, and the reply to the request for one grants it. -/
structure Granted (client : Client) (before : Session) (grant : Grant) (backend : Http.Backend) :
    Prop where
  due : before.freshToken? = none
  answered : ∃ reply, client.asked (tokenRequest client.credentials) before.backend =
    (.ok reply, backend) ∧ grantOf reply = .ok grant

theorem token_of_granted {client : Client} (h : client.Granted before grant backend) :
    let token : Token := ⟨grant.token, Token.expiryAt backend.clock grant.lifetime⟩
    client.token.run.run before = (.ok token,
      { before with
        backend := backend
        token := some token
        events := before.events ++ [.requestingToken client.credentials.serverUrl] }) := by
  obtain ⟨reply, hasked, hgrant⟩ := h.answered
  have hexchanged : client.exchanged before.backend =
      (.ok ⟨grant.token, Token.expiryAt backend.clock grant.lifetime⟩, backend) := by
    rw [exchanged, hasked]
    simp only [Except.bind, hgrant]
    rfl
  rw [token_run, h.due, hexchanged]
  rfl

/-- A token that is kept is given again, with nothing done for it, just as long
as it is fresh. -/
theorem token_again_iff {client : Client} {session : Session} {kept : Token}
    (h : session.token = some kept) :
    client.token.run.run session = (.ok kept, session) ↔
      session.backend.clock + Token.margin < kept.expiry := by
  rw [token_run, Session.freshToken?, h, Option.filter_some, Token.isFresh]
  by_cases hfresh : session.backend.clock + Token.margin < kept.expiry
  · rw [if_pos (decide_eq_true hfresh)]
    exact iff_of_true rfl hfresh
  · rw [if_neg (by simpa using hfresh)]
    refine iff_of_false (fun hsame => ?_) hfresh
    have hevents := congrArg (fun outcome => outcome.2.events.length) hsame
    simp at hevents

/-- What a client does with a token that it has: it goes by the expiry, and gives
the token again, with nothing done for it, just as long as it is fresh. -/
structure Reuses (client : Client) (token : Token) (expiry : Int64) : Prop where
  stored : token.expiry = expiry.toInt
  again : ∀ (session : Session) (now : Int64), session.token = some token →
    now.toInt = session.backend.clock →
    (client.token.run.run session = (.ok token, session) ↔ Token.freshAt? expiry now = some true)

theorem reuses {client : Client} {token : Token} {expiry : Int64}
    (hstored : token.expiry = expiry.toInt) : client.Reuses token expiry where
  stored := hstored
  again session now htoken hnow := by
    rw [token_again_iff htoken, Token.freshAt?_iff]
    omega

end Client

/-- The sums for a token come out for all lifetimes, and a longer one does not make
a token stale that is fresh with a shorter one. A client that is granted a token
keeps it with the expiry that comes out, and uses it again exactly while it is
fresh. -/
theorem lifetimes_never_overflow :
    (∀ (readAt : Int64) lifetime, readAt.toInt + Token.usualLifetime < Token.timeLimit →
      ∃ expiry, Token.Lasts readAt lifetime expiry) ∧
    (∀ (readAt : Int64) (seconds more : UInt64) expiry later now,
      Token.Lasts readAt (some seconds) expiry → Token.Lasts readAt (some more) later →
      seconds ≤ more → readAt.toInt + more.toNat < Token.timeLimit →
      Token.freshAt? expiry now = some true → Token.freshAt? later now = some true) ∧
    ∀ (client : Client) before grant backend, client.Granted before grant backend →
      backend.clock + Token.usualLifetime < Token.timeLimit →
      ∃ (readAt : Int64) (lifetime : Option UInt64) (expiry : Int64) (token : Token),
        readAt.toInt = backend.clock ∧ lifetime.map UInt64.toNat = grant.lifetime ∧
        Token.Lasts readAt lifetime expiry ∧ token.value = grant.token ∧
        client.Reuses token expiry ∧
        client.token.run.run before = (.ok token,
          { before with
            backend := backend
            token := some token
            events := before.events ++ [.requestingToken client.credentials.serverUrl] }) := by
  refine ⟨Token.exists_lasts, ?_, ?_⟩
  · intro readAt seconds more expiry later now h hmore hle hin hfresh
    exact h.longer hmore hle hin hfresh
  · intro client before grant backend hgranted hclock
    have hlimit : Token.timeLimit = 9223372036854775808 := rfl
    have hreadAt : (Int64.ofNat backend.clock).toInt = backend.clock :=
      Int64.toInt_ofNat_of_lt (by omega)
    obtain ⟨reply, -, hgrant⟩ := hgranted.answered
    obtain ⟨lifetime, hlifetime⟩ := lifetime_of_grantOf hgrant
    obtain ⟨expiry, hlasts⟩ := Token.exists_lasts (Int64.ofNat backend.clock) lifetime (by omega)
    have hexpiry : (Token.expiryAt backend.clock grant.lifetime : Int) = expiry.toInt := by
      rw [← hlifetime, Token.expiryAt_eq hreadAt, hlasts.ends, hreadAt]
      rfl
    exact ⟨_, lifetime, expiry, ⟨grant.token, _⟩, hreadAt, hlifetime, hlasts, rfl,
      Client.reuses hexpiry, Client.token_of_granted hgranted⟩

/-- The longest lifetime takes the sum past the last time, and so does one that is a
second longer than the usual one, as late as a token can be read. -/
theorem longest_lifetime_counts_as_none :
    let client : Client := ⟨⟨"id", "secret", "http://h"⟩, fun _ => .answered⟩
    let body := "\x7b\"access_token\":\"t\",\"expires_in\":18446744073709551615\x7d"
    let before : Session :=
      { backend := { script := [{ status := 200, body := Utf8.ofString body }], clock := 1000 } }
    let backend := (client.asked (tokenRequest client.credentials) before.backend).2
    let late : Int64 := 9223372036854775207
    (client.Granted before ⟨"t", some 18446744073709551615⟩ backend ∧
        backend.clock + Token.usualLifetime < Token.timeLimit ∧
        (client.token.run.run before).1 = .ok ⟨"t", 1600⟩) ∧
      (late.toInt + Token.usualLifetime < Token.timeLimit ∧
        Token.Lasts late (some 601) Int64.maxValue) ∧
      Token.Lasts 1000 (some 60) 1060 ∧ Token.Lasts 1000 (some 90) 1090 ∧
        Token.freshAt? 1060 1029 = some true ∧ Token.freshAt? 1090 1029 = some true := by
  intro client body before backend late
  obtain ⟨hlasts, hlonger, hgrants⟩ := lifetimes_never_overflow
  have hgranted : client.Granted before ⟨"t", some 18446744073709551615⟩ backend := by
    refine ⟨rfl, { status := 200, body := Utf8.ofString body }, ?_, ?_⟩ <;> decide +kernel
  have hclock : backend.clock = 1000 := by decide +kernel
  have hin : backend.clock + Token.usualLifetime < Token.timeLimit := by
    rw [hclock]
    decide
  have hshort : Token.Lasts 1000 (some 60) 1060 :=
    ⟨by decide, by decide, by decide, fun now h => Token.freshAt?_of_lt h⟩
  have hlong : Token.Lasts 1000 (some 90) 1090 :=
    ⟨by decide, by decide, by decide, fun now h => Token.freshAt?_of_lt h⟩
  refine ⟨⟨hgranted, hin, ?_⟩, ⟨by decide, ?_⟩, hshort, hlong, by decide, ?_⟩
  · obtain ⟨readAt, lifetime, expiry, ⟨value, ends⟩, hreadAt, hlifetime, h, rfl, hreuses, hrun⟩ :=
      hgrants client before _ backend hgranted hin
    obtain ⟨seconds, rfl, hseconds⟩ := Option.map_eq_some_iff.mp hlifetime
    rw [hclock] at hreadAt
    have hreadAt : readAt = 1000 := Int64.toInt_inj.mp hreadAt
    have hseconds : seconds = 18446744073709551615 := UInt64.toNat_inj.mp hseconds
    have hexpiry : expiry = 1600 := by
      rw [hreadAt, hseconds] at h
      exact Option.some.inj (h.sums.symm.trans (by decide))
    have hends : ends = 1600 := by
      have hstored := hreuses.stored
      rw [hexpiry] at hstored
      exact Int.ofNat.inj hstored
    rw [hrun, hends]
  · obtain ⟨expiry, h⟩ := hlasts late (some 601) (by decide)
    have hexpiry : expiry = Int64.maxValue := Option.some.inj (h.sums.symm.trans (by decide))
    exact hexpiry ▸ h
  · exact hlonger 1000 60 90 1060 1090 1029 hshort hlong (by decide) (by decide) (by decide)

end ManifestNotice.Chat
