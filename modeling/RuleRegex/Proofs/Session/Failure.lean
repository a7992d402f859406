import RuleRegex.Proofs.Session.Request

/-!
# Requests that fail

A request fails before the source is compiled, because of the compilation, or when there is no room for
what was compiled. In the last case the cache has dropped all its entries. But a cache without room is of
negative size and never had an entry, so whatever goes wrong the cache is as it was, and counts a miss.

## Main definitions

* `Session.Fits` — the entries of the cache in a slot fit into its size.
-/

namespace RuleRegex

namespace Session

variable {Code : Type} {engine : Engine Code} {s : Session Code} {slot : Slot} {source : Source}
  {cache : Cache Code} {c : Config} {p : Answer Code × Session Code}

/-! ## The size of a cache -/

def Fits (s : Session Code) (slot : Slot) : Prop :=
  ∀ cache, s.cache? slot = some cache → cache.Fits

theorem fits_of_cache?_eq_none (h : s.cache? slot = none) : s.Fits slot := by
  intro cache hcache
  rw [h] at hcache
  cases hcache

theorem fits_withCache (h : cache.Fits) : (s.withCache slot cache).Fits slot := by
  intro cache' hcache
  rw [cache?_withCache_self] at hcache
  rwa [← Option.some.inj hcache]

/-- The cache that is asked fits, whether it was there or is made first. -/
theorem Fits.asked (h : s.Fits slot) (hasked : s.asked c slot = some cache) : cache.Fits := by
  rcases asked_eq_some hasked with hcache | ⟨-, -, rfl⟩
  · exact h cache hcache
  · exact Cache.fits_of_entries_eq_nil rfl

/-- A request keeps the entries of its cache within the size. -/
theorem Requested.fits (h : Requested engine s slot source p) (hs : s.Fits slot) :
    p.2.Fits slot := by
  cases h with
  | hit hcache hfind => exact fits_withCache ((hs _ hcache).hit hfind)
  | absent => exact hs
  | unread =>
    unfold missed
    split
    · next hcache => exact fits_withCache (hs _ hcache).miss
    · exact hs
  | rejected _ _ hasked => exact fits_withCache (hs.asked hasked).miss
  | emptied => exact fits_withCache (Cache.fits_of_entries_eq_nil rfl)
  | built _ _ _ _ hinsert => exact fits_withCache (Cache.fits_of_insert? hinsert)

/-- Every step keeps a cache within its size. -/
theorem fits_step (engine : Engine Code) (h : s.Fits slot) (step : Step) :
    (s.step engine step).2.Fits slot := by
  by_cases hstep : ∃ source, step = slot.request source
  · obtain ⟨source, rfl⟩ := hstep
    exact (requested engine s slot source).fits h
  · intro cache hcache
    rcases cache?_step fun source he => hstep ⟨source, he⟩ with
      hsame | ⟨-, hnone⟩ | ⟨-, cache', hcache', hempty⟩
    · exact h cache (hsame.symm.trans hcache)
    · cases hnone.symm.trans hcache
    · obtain rfl := Option.some.inj (hcache'.symm.trans hcache)
      exact Cache.fits_of_entries_eq_nil hempty

/-- **The entries of a cache fit into its size at every time.** -/
theorem fits_after (engine : Engine Code) (h : s.Fits slot) (steps : List Step) :
    (after engine s steps).Fits slot := by
  induction steps generalizing s with
  | nil => exact h
  | cons step steps ih =>
    rw [after_cons]
    exact ih (fits_step engine h step)

/-! ## What a failure leaves -/

/-- A request that fails changes its cache by one miss. -/
theorem Requested.cache?_of_failed (h : Requested engine s slot source p) (hs : s.Fits slot)
    (hcache : s.cache? slot = some cache) {e : RequestError} (hp : p.1 = .failed e) :
    p.2.cache? slot = some cache.miss := by
  cases h with
  | hit | built => cases hp
  | absent hslot hnone =>
    subst hslot
    cases hnone.symm.trans hcache
  | unread => rw [missed, hcache, cache?_withCache_self]
  | rejected _ _ hasked =>
    rw [asked_of_cache? hcache] at hasked
    rw [cache?_withCache_self, Option.some.inj hasked]
  | emptied _ _ hasked _ hinsert =>
    rw [asked_of_cache? hcache] at hasked
    obtain rfl := Option.some.inj hasked
    have hnone : cache.entries = [] :=
      (hs cache hcache).entries_eq_nil (Cache.insert?_miss_eq_none_iff.1 hinsert)
    rw [cache?_withCache_self, Cache.emptied, Cache.miss, hnone]

/-- A request fails for want of room exactly if the source compiles and the size is negative. -/
theorem Requested.failed_cacheEmptied_iff (h : Requested engine s slot source p) (hs : s.Fits slot) :
    p.1 = .failed .cacheEmptied ↔
      ∃ c cache r, s.inForce = .ok c ∧ s.asked c slot = some cache ∧ cache.maxSize < 0 ∧
        Regex.compile engine c source = .ok r := by
  constructor
  · intro hp
    cases h with
    | hit | absent | unread | rejected | built => cases hp
    | emptied _ hforce hasked hcompile hinsert =>
      exact ⟨_, _, _, hforce, hasked, Cache.insert?_miss_eq_none_iff.1 hinsert, hcompile⟩
  · rintro ⟨c, cache, r, hforce, hasked, hsize, hcompile⟩
    cases h with
    | hit hcache hfind =>
      -- A cache of negative size has no entries, so it has no hits.
      rw [asked_of_cache? hcache] at hasked
      obtain rfl := Option.some.inj hasked
      rw [Cache.find?, (hs _ hcache).entries_eq_nil hsize] at hfind
      cases hfind
    | absent hslot hnone =>
      subst hslot
      cases hnone.symm.trans hasked
    | unread _ hforce' => cases hforce.symm.trans hforce'
    | rejected _ hforce' _ hcompile' =>
      obtain rfl := Except.ok.inj (hforce.symm.trans hforce')
      cases hcompile.symm.trans hcompile'
    | emptied => rfl
    | built _ hforce' hasked' _ hinsert =>
      obtain rfl := Except.ok.inj (hforce.symm.trans hforce')
      obtain rfl := Option.some.inj (hasked.symm.trans hasked')
      cases (Cache.insert?_miss_eq_none_iff.2 hsize).symm.trans hinsert

/-- **A failed request leaves its cache as it was.** In every state that a session comes to, whatever the
size of a cache is and whatever goes wrong in a request of it, its entries, their order and objects, its
hits and its size stay, and it counts one miss more. There is no room for what was compiled exactly if
the size of the cache that is asked is negative, and then the cache has no entries. -/
theorem failed_request_keeps_cache (engine : Engine Code) (env : Environment) (steps : List Step)
    (slot : Slot) :
    let s : Session Code := after engine { environment := env } steps
    (∀ cache, s.cache? slot = some cache →
      (cache.maxSize < 0 → cache.entries = []) ∧
      ∀ source e, (s.step engine (slot.request source)).1 = .failed e →
        (s.step engine (slot.request source)).2.cache? slot =
          some { cache with misses := cache.misses + 1 }) ∧
    ∀ source, (s.step engine (slot.request source)).1 = .failed .cacheEmptied ↔
      ∃ c cache r, s.inForce = .ok c ∧ s.asked c slot = some cache ∧ cache.maxSize < 0 ∧
        Regex.compile engine c source = .ok r := by
  intro s
  have hs : s.Fits slot := fits_after engine (fits_of_cache?_eq_none (by cases slot <;> rfl)) steps
  constructor
  · intro cache hcache
    refine ⟨(hs cache hcache).entries_eq_nil, fun source e hfailed => ?_⟩
    exact (requested engine s slot source).cache?_of_failed hs hcache hfailed
  · intro source
    exact (requested engine s slot source).failed_cacheEmptied_iff hs

/-- A cache of negative size: every request that compiles fails, and only its misses change. -/
theorem failed_request_of_negative_size :
    let a : Source := ⟨[0x61], true⟩
    let s := after pickyEngine {} [.setConfig (some {}), .newCache (-1), .get a]
    s.cache? .own = some { maxSize := -1, misses := 1 } ∧
    (s.step pickyEngine (.get a)).1 = .failed .cacheEmptied ∧
    (s.step pickyEngine (.get a)).2.cache? .own = some { maxSize := -1, misses := 2 } := by
  intro a s
  obtain ⟨hkept, hemptied⟩ := failed_request_keeps_cache pickyEngine {}
    [.setConfig (some {}), .newCache (-1), .get a] .own
  have hcache : s.cache? .own = some { maxSize := -1, misses := 1 } := rfl
  have hfailed : (s.step pickyEngine (.get a)).1 = .failed .cacheEmptied :=
    (hemptied a).2 ⟨{}, _, _, rfl, hcache, by decide, rfl⟩
  exact ⟨hcache, hfailed, (hkept _ hcache).2 a _ hfailed⟩

end Session

end RuleRegex
