import Mathlib.Data.List.Induction
import IonInsurance.Go

/-!
# The access token of the SNAP API

`getB2BToken` keeps the token that DOKU has issued last, and serves it until 50 seconds before its lifetime has passed.
The lifetime is counted from the reading of the clock after the response, which is later than the issue by the latency
of the fetch, and its multiplication by a second wraps around.  An instant is a number of nanoseconds.
-/

namespace IonInsurance.Ion

/-- `n * time.Second`, as a number. -/
def seconds (n : Int) : Int := n * 1000000000

structure CachedToken where
  token : String
  expiresAt : Int

/-- The decoded response of the token endpoint. -/
structure TokenResponse where
  accessToken : String
  expiresIn : Int64

/-- How a fetch ends: before it is sent, without a response, or with one. -/
inductive Fetch : Type where
  | signError (err : String)
  | requestError (err : String)
  | failed (err : String)
  | response (status : Nat) (body : String) (decoded : Except String TokenResponse)

/-- The response of a successful fetch. -/
def tokenOf : Fetch → Except String TokenResponse
  | .signError err => .error ("RSA sign: " ++ err)
  | .requestError err => .error err
  | .failed err => .error ("B2B token request: " ++ err)
  | .response status body decoded =>
    if status ≠ 200 ∧ status ≠ 201 then .error ("B2B token HTTP " ++ toString status ++ ": " ++ body)
    else
      match decoded with
      | .error err => .error ("B2B token decode: " ++ err)
      | .ok resp => if resp.accessToken = "" then .error ("B2B token empty: " ++ body) else .ok resp

/-- What a call meets: the clock at its start, and, where it fetches a token, the end of the fetch, the instant at which
the server has issued the token, and the clock after the response. -/
structure Call where
  start : Int
  fetch : Fetch
  issued : Int
  received : Int

/-- `time.Duration(expiresIn) * time.Second`, or 900 seconds where that is not positive. -/
def ttl (expiresIn : Int64) : Int64 :=
  let ttl := expiresIn * 1000000000
  if ttl ≤ 0 then 900 * 1000000000 else ttl

/-- What the cache keeps of a response. -/
def cached (received : Int) (resp : TokenResponse) : CachedToken where
  token := resp.accessToken
  expiresAt := received + (ttl resp.expiresIn - 50 * 1000000000).toInt

/-- The cached token is served. -/
def Hit (snapToken : Option CachedToken) (c : Call) : Prop := ∃ t, snapToken = some t ∧ c.start < t.expiresAt

def getB2BToken (snapToken : Option CachedToken) (c : Call) : Except String String × Option CachedToken :=
  let fetched :=
    match tokenOf c.fetch with
    | .error err => (.error err, snapToken)
    | .ok resp => (.ok resp.accessToken, some (cached c.received resp))
  match snapToken with
  | some t => if c.start < t.expiresAt then (.ok t.token, snapToken) else fetched
  | none => fetched

/-- The cache after calls one after the other. -/
def cacheAfter (calls : List Call) : Option CachedToken := calls.foldl (fun k c => (getB2BToken k c).2) none

/-! ### One call -/

theorem getB2BToken_of_hit {t : CachedToken} {c : Call} (h : c.start < t.expiresAt) :
    getB2BToken (some t) c = (.ok t.token, some t) := if_pos h

/-- Without a hit the call fetches a token. -/
theorem getB2BToken_of_not_hit {k : Option CachedToken} {c : Call} (h : ¬Hit k c) : getB2BToken k c =
    match tokenOf c.fetch with
    | .error err => (.error err, k)
    | .ok resp => (.ok resp.accessToken, some (cached c.received resp)) := by
  cases k with
  | none => rfl
  | some t => exact if_neg fun hlt => h ⟨t, rfl, hlt⟩

theorem getB2BToken_of_error {k : Option CachedToken} {c : Call} (h : ¬Hit k c) {err : String}
    (hfetch : tokenOf c.fetch = .error err) : getB2BToken k c = (.error err, k) := by
  rw [getB2BToken_of_not_hit h, hfetch]

theorem getB2BToken_of_ok {k : Option CachedToken} {c : Call} (h : ¬Hit k c) {resp : TokenResponse}
    (hfetch : tokenOf c.fetch = .ok resp) :
    getB2BToken k c = (.ok resp.accessToken, some (cached c.received resp)) := by
  rw [getB2BToken_of_not_hit h, hfetch]

/-- A call leaves the cache as it is, or it has fetched the token that the cache keeps. -/
theorem cache_cases (k : Option CachedToken) (c : Call) : (getB2BToken k c).2 = k ∨
    ∃ resp, ¬Hit k c ∧ tokenOf c.fetch = .ok resp ∧ (getB2BToken k c).2 = some (cached c.received resp) := by
  by_cases h : Hit k c
  · obtain ⟨t, rfl, hlt⟩ := h
    left
    rw [getB2BToken_of_hit hlt]
  · cases hfetch : tokenOf c.fetch with
    | error err =>
      left
      rw [getB2BToken_of_error h hfetch]
    | ok resp =>
      right
      refine ⟨resp, h, rfl, ?_⟩
      rw [getB2BToken_of_ok h hfetch]

/-! ### The lifetime of a token -/

/-- The lifetime that a response gives its token. -/
def lifetime (expiresIn : Int64) : Int := if expiresIn = 0 then seconds 900 else seconds expiresIn.toInt

/-- A number that is not negative wraps around to no more than itself, and to itself where it fits. -/
theorem bmod_le {x : Int} (hx : 0 ≤ x) :
    x.bmod Int64.size ≤ x ∧ (x < 9223372036854775808 → x.bmod Int64.size = x) := by
  have hsize : (Int64.size : Int) = 18446744073709551616 := rfl
  unfold Int.bmod
  rw [hsize]
  dsimp only
  split <;> omega

/-- The multiplication may wrap around, but not to more than its product. -/
theorem ttl_le_lifetime {e : Int64} (h : 0 ≤ e) : 0 < (ttl e).toInt ∧ (ttl e).toInt ≤ lifetime e := by
  have he : 0 ≤ e.toInt := Int64.le_iff_toInt_le.1 h
  have hproduct : (e * 1000000000).toInt = (e.toInt * 1000000000).bmod Int64.size := Int64.toInt_mul ..
  obtain ⟨hwrap, hfits⟩ := bmod_le (x := e.toInt * 1000000000) (by omega)
  have hzero : (0 : Int64).toInt = 0 := rfl
  have hdefault : (900 * 1000000000 : Int64).toInt = 900000000000 := by decide
  have hne : e ≠ 0 → e.toInt ≠ 0 := fun hne heq => hne (Int64.toInt_inj.1 heq)
  unfold ttl lifetime seconds
  dsimp only
  by_cases hle : e * 1000000000 ≤ 0
  · -- the lifetime is zero, or so long that the product has wrapped around
    rw [if_pos hle, hdefault]
    rw [Int64.le_iff_toInt_le, hzero, hproduct] at hle
    by_cases heq : e = 0
    · rw [if_pos heq]
      omega
    · rw [if_neg heq]
      have hpos := hne heq
      omega
  · rw [if_neg hle, hproduct]
    rw [Int64.le_iff_toInt_le, hzero, hproduct] at hle
    have heq : e ≠ 0 := by
      rintro rfl
      exact hle (by decide)
    rw [if_neg heq]
    omega

/-- The margin is subtracted without a wrap. -/
theorem toInt_sub_margin {d : Int64} (h : 0 < d.toInt) : (d - 50 * 1000000000).toInt = d.toInt - seconds 50 := by
  have hmargin : (50 * 1000000000 : Int64).toInt = 50000000000 := by decide
  have hlt : d.toInt < 2 ^ 63 := d.toInt_lt
  have hfits : (d.toInt - 50000000000).bmod (2 ^ 64) = d.toInt - 50000000000 := by
    apply Int.bmod_eq_of_le <;> omega
  rw [Int64.toInt_sub, hmargin, hfits]
  rfl

/-! ### Runs -/

theorem cacheAfter_append (calls : List Call) (c : Call) :
    cacheAfter (calls ++ [c]) = (getB2BToken (cacheAfter calls) c).2 := by
  unfold cacheAfter
  rw [List.foldl_append]
  rfl

/-- In the run `calls`, the call `d` is the last that has filled the cache, with the response `resp`. -/
structure Filled (calls : List Call) (d : Call) (resp : TokenResponse) : Prop where
  run : ∃ before after, calls = before ++ d :: after ∧ ¬Hit (cacheAfter before) d ∧
    cacheAfter (before ++ [d]) = cacheAfter calls
  fetched : tokenOf d.fetch = .ok resp
  cache : cacheAfter calls = some (cached d.received resp)

/-- What the cache keeps has been fetched by a call of the run. -/
theorem filled_of_cacheAfter {calls : List Call} {t : CachedToken} (h : cacheAfter calls = some t) :
    ∃ d resp, Filled calls d resp := by
  induction calls using List.reverseRecOn generalizing t with
  | nil => cases h
  | append_singleton calls c ih =>
    rcases cache_cases (cacheAfter calls) c with hsame | ⟨resp, hmiss, hfetch, hcache⟩
    · -- the last call has left the cache as it was
      rw [← cacheAfter_append] at hsame
      rw [hsame] at h
      obtain ⟨d, resp, hrun, hfetched, hcache⟩ := ih h
      obtain ⟨before, after, rfl, hmiss, hfill⟩ := hrun
      refine ⟨d, resp, ⟨before, after ++ [c], ?_, hmiss, ?_⟩, hfetched, ?_⟩
      · rw [List.append_assoc, List.cons_append]
      · rw [hsame, hfill]
      · rw [hsame, hcache]
    · -- the last call has filled it
      rw [← cacheAfter_append] at hcache
      exact ⟨c, resp, ⟨calls, [], rfl, hmiss, rfl⟩, hfetch, hcache⟩

/-- The fetch of a call ends within its timeout of 15 seconds, and does not give a negative lifetime. -/
structure Call.Timely (c : Call) : Prop where
  issued : c.start ≤ c.issued
  received : c.received ≤ c.start + seconds 15
  nonneg : ∀ resp, tokenOf c.fetch = .ok resp → 0 ≤ resp.expiresIn

/-- A cached token expires at least 35 seconds before the token that DOKU has issued. -/
theorem cached_expiresAt_le {c : Call} (h : c.Timely) {resp : TokenResponse} (hfetch : tokenOf c.fetch = .ok resp) :
    (cached c.received resp).expiresAt + seconds 35 ≤ c.issued + lifetime resp.expiresIn := by
  obtain ⟨hpos, hle⟩ := ttl_le_lifetime (h.nonneg resp hfetch)
  have hissued := h.issued
  have hreceived := h.received
  show c.received + (ttl resp.expiresIn - 50 * 1000000000).toInt + seconds 35 ≤ _
  rw [toInt_sub_margin hpos]
  unfold seconds at *
  omega

/-- A token that a run serves from the cache has been fetched by an earlier call of it, and has not expired.  Nothing is
asked of the order of the readings of the clock. -/
theorem cache_not_expired (calls : List Call) (htimely : ∀ c ∈ calls, c.Timely) {before after : List Call} {c : Call}
    (hcalls : calls = before ++ c :: after) (hhit : Hit (cacheAfter before) c) :
    ∃ d resp, Filled before d resp ∧
      getB2BToken (cacheAfter before) c = (.ok resp.accessToken, cacheAfter before) ∧
      c.start < d.issued + lifetime resp.expiresIn := by
  obtain ⟨t, ht, hlt⟩ := hhit
  obtain ⟨d, resp, hfilled⟩ := filled_of_cacheAfter ht
  have hcached : t = cached d.received resp := Option.some.inj (ht.symm.trans hfilled.cache)
  refine ⟨d, resp, hfilled, ?_, ?_⟩
  · rw [ht, getB2BToken_of_hit hlt, hcached]
    rfl
  · obtain ⟨pre, post, hbefore, -, -⟩ := hfilled.run
    have hmem : d ∈ calls := by
      rw [hcalls, hbefore]
      exact List.mem_append_left _ (List.mem_append_right _ List.mem_cons_self)
    have hbound := cached_expiresAt_le (htimely d hmem) hfilled.fetched
    rw [hcached] at hlt
    unfold seconds at hbound
    omega

/-- A fetch of a token of 900 seconds, which takes two seconds. -/
def fetchingCall : Call where
  start := 0
  fetch := .response 200 "" (.ok ⟨"tok", 900⟩)
  issued := seconds 1
  received := seconds 2

/-- A call 851 seconds after the first. -/
def lateCall : Call where
  start := seconds 851
  fetch := .failed "timeout"
  issued := seconds 851
  received := seconds 851

theorem cache_not_expired_late : (getB2BToken (cacheAfter [fetchingCall]) lateCall).1 = .ok "tok" ∧
    ∃ d resp, Filled [fetchingCall] d resp ∧
      getB2BToken (cacheAfter [fetchingCall]) lateCall = (.ok resp.accessToken, cacheAfter [fetchingCall]) ∧
      lateCall.start < d.issued + lifetime resp.expiresIn := by
  have htimely : ∀ c ∈ [fetchingCall, lateCall], c.Timely := by
    intro c hc
    simp only [List.mem_cons, List.not_mem_nil, or_false] at hc
    rcases hc with rfl | rfl
    · refine ⟨by decide, by decide, ?_⟩
      intro resp hfetch
      obtain rfl : (⟨"tok", 900⟩ : TokenResponse) = resp := Except.ok.inj hfetch
      decide
    · exact ⟨by decide, by decide, fun _ hfetch => nomatch hfetch⟩
  have hcalls : [fetchingCall, lateCall] = [fetchingCall] ++ lateCall :: [] := rfl
  exact ⟨rfl, cache_not_expired _ htimely hcalls ⟨_, rfl, by decide⟩⟩

end IonInsurance.Ion
