import OzoPg.Connection

/-!
# Filling an oid map

`make_oids_query` and `set_oid_map` of `include/ozo/impl/request_oid_map.h`. The latter writes the
received oids one after another and throws at the first null one, so a map may be left half
written.

* `setOidMap_resolves` — a call that returns leaves an oid for every registered type.
* `setOidMap_eq_none_iff`, `setOidMap_at` — when it returns, and which oid each type then has.
* `oids_setOidMap`, `setOidMap_keeps_iff` — what it leaves in the map, and when a call that throws
  leaves it as it was.
-/

namespace OzoPg

namespace OidMap

/-- The registered types. -/
def keys (m : OidMap) : List OidKey := m.entries.map Prod.fst

/-- `OidMap{}`: every type is registered with the null oid. -/
def fresh (keys : List OidKey) : OidMap := ⟨keys.map fun k => (k, nullOid)⟩

/-- The map has an oid for each of the types. -/
def Resolves (m : OidMap) (keys : List OidKey) : Prop := ∀ k ∈ keys, m.at k ≠ nullOid

instance (m : OidMap) (keys : List OidKey) : Decidable (m.Resolves keys) :=
  inferInstanceAs (Decidable (∀ k ∈ keys, _))

@[simp] theorem keys_fresh (keys : List OidKey) : (fresh keys).keys = keys := by
  simp [OidMap.keys, fresh, Function.comp_def]

/-- A map resolves its types when none of its entries is null. -/
theorem resolves_keys {m : OidMap} (h : ∀ e ∈ m.entries, e.2 ≠ nullOid) : m.Resolves m.keys := by
  intro k hk
  unfold OidMap.at
  cases hlookup : m.entries.lookup k with
  | none =>
      -- a registered type has an entry
      obtain ⟨e, he, rfl⟩ := List.mem_map.mp hk
      have hne := List.lookup_eq_none_iff.mp hlookup e he
      simp at hne
  | some o =>
      obtain ⟨l₁, l₂, heq, -⟩ := List.lookup_eq_some_iff.mp hlookup
      apply h (k, o)
      simp [heq]

end OidMap

/-- The names `set_oid_map` puts into a message: that of the C++ type and the registered one. -/
structure TypeNames where
  demangled : OidKey → String
  typeName : OidKey → String

/-- What `set_oid_map` throws. -/
inductive SetOidMapError where
  /-- `std::length_error` -/
  | lengthError (received size : Nat)
  /-- `std::invalid_argument` -/
  | nullOid (key : OidKey)
  deriving DecidableEq, Repr

/-- `std::exception::what`. -/
def SetOidMapError.what (names : TypeNames) : SetOidMapError → String
  | .lengthError received size =>
    "result size " ++ toString received ++ " does not match to oid map size " ++ toString size
  | .nullOid key =>
    "null oid for type " ++ names.demangled key ++ " which is mapped as " ++ names.typeName key

/-- The loop of `set_oid_map`: the entries as it leaves them, and the type it throws for. -/
def setOids : List (OidKey × Oid) → List Oid → List (OidKey × Oid) × Option OidKey
  | (k, o) :: es, r :: rs =>
    if r = nullOid then
      ((k, o) :: es, some k)
    else
      ((k, r) :: (setOids es rs).1, (setOids es rs).2)
  | es, _ => (es, none)

/-- `set_oid_map`: the map as it leaves it, with the exception if it throws. -/
def setOidMap (m : OidMap) (res : List Oid) : OidMap × Option SetOidMapError :=
  if m.entries.length ≠ res.length then
    (m, some (.lengthError res.length m.entries.length))
  else
    (⟨(setOids m.entries res).1⟩, (setOids m.entries res).2.map .nullOid)

/-- The types stay as they are registered. -/
theorem map_fst_setOids (es : List (OidKey × Oid)) (rs : List Oid) :
    (setOids es rs).1.map Prod.fst = es.map Prod.fst := by
  induction es generalizing rs with
  | nil => rfl
  | cons e es ih =>
      cases rs with
      | nil => rfl
      | cons r rs =>
          unfold setOids
          split
          · rfl
          · simp [ih rs]

/-- The types stay registered whether the call returns or throws. -/
@[simp] theorem keys_setOidMap (m : OidMap) (res : List Oid) :
    (setOidMap m res).1.keys = m.keys := by
  unfold setOidMap
  split
  · rfl
  · exact map_fst_setOids m.entries res

/-- The loop of `set_oid_map` throws for a null oid only, and otherwise gives each type the oid at
its position. -/
theorem setOids_eq_none_iff {es : List (OidKey × Oid)} {rs : List Oid}
    (hlen : es.length = rs.length) :
    (setOids es rs).2 = none ↔ nullOid ∉ rs := by
  induction es generalizing rs with
  | nil =>
      obtain rfl := List.length_eq_zero_iff.mp hlen.symm
      simp [setOids]
  | cons e es ih =>
      cases rs with
      | nil => cases hlen
      | cons r rs =>
          unfold setOids
          split
          · next h => simp [h]
          · next h =>
              rw [ih (Nat.succ.inj hlen), List.mem_cons, not_or]
              exact (and_iff_right (Ne.symm h)).symm

/-- Without an exception every type has the oid at its position. -/
theorem setOids_fst_of_none {es : List (OidKey × Oid)} {rs : List Oid}
    (hlen : es.length = rs.length) (h : (setOids es rs).2 = none) :
    (setOids es rs).1 = (es.map Prod.fst).zip rs := by
  induction es generalizing rs with
  | nil => rfl
  | cons e es ih =>
      cases rs with
      | nil => cases hlen
      | cons r rs =>
          unfold setOids at h ⊢
          split at h
          · cases h
          · next hr =>
              rw [if_neg hr]
              simp [ih (Nat.succ.inj hlen) h]

/-- Without an exception no type is left without an oid. -/
theorem setOids_ne_nullOid {es : List (OidKey × Oid)} {rs : List Oid}
    (hlen : es.length = rs.length) (h : (setOids es rs).2 = none) :
    ∀ e ∈ (setOids es rs).1, e.2 ≠ nullOid := by
  intro e he hnull
  rw [setOids_fst_of_none hlen h] at he
  apply (setOids_eq_none_iff hlen).mp h
  rw [← hnull]
  exact (List.of_mem_zip he).2

/-- When `set_oid_map` returns, every registered type has an oid. -/
theorem setOidMap_resolves {m : OidMap} {res : List Oid} (h : (setOidMap m res).2 = none) :
    (setOidMap m res).1.Resolves m.keys := by
  rw [← keys_setOidMap m res]
  apply OidMap.resolves_keys
  unfold setOidMap at h ⊢
  split at h
  · cases h
  · next hlen =>
      rw [if_neg hlen]
      exact setOids_ne_nullOid (not_not.mp hlen) (Option.map_eq_none_iff.mp h)

/-! ## The request for the oids -/

/-- `get_types_names`. -/
def getTypesNames (names : TypeNames) (m : OidMap) : List String := m.keys.map names.typeName

/-- The query for the oids: its text and the array of names that is its parameter. -/
structure OidsQuery where
  text : String
  names : List String
  deriving DecidableEq, Repr

/-- `make_oids_query`. -/
def makeOidsQuery (names : TypeNames) (m : OidMap) : OidsQuery where
  text := "SELECT COALESCE(to_regtype(f)::oid, 0) AS oid FROM UNNEST($1) AS f"
  names := getTypesNames names m

/-- `set_oid_map` returns exactly for one oid per type, none of them null. -/
theorem setOidMap_eq_none_iff {m : OidMap} {res : List Oid} :
    (setOidMap m res).2 = none ↔ m.keys.length = res.length ∧ nullOid ∉ res := by
  unfold setOidMap OidMap.keys
  rw [List.length_map]
  split
  · next h => simp [h]
  · next h =>
      have hlen := not_not.mp h
      rw [Option.map_eq_none_iff, setOids_eq_none_iff hlen]
      exact (and_iff_right hlen).symm

/-- The first entry of a type is the one that counts. -/
theorem lookup_zip {keys : List OidKey} {os : List Oid} (hnodup : keys.Nodup) {i : Nat}
    {k : OidKey} (hk : keys[i]? = some k) : (keys.zip os).lookup k = os[i]? := by
  induction keys generalizing os i with
  | nil => cases hk
  | cons k' keys ih =>
      obtain ⟨hnotin, htail⟩ := List.nodup_cons.mp hnodup
      cases os with
      | nil => rfl
      | cons o os =>
          cases i with
          | zero =>
              cases hk
              simp
          | succ i =>
              -- the key is not the first one, since keys are distinct
              have hne : k ≠ k' := by
                rintro rfl
                exact hnotin (List.mem_of_getElem? hk)
              simp only [List.zip_cons_cons, List.lookup_cons, beq_eq_false_iff_ne.mpr hne,
                List.getElem?_cons_succ]
              exact ih htail hk

/-- When `set_oid_map` returns, each type has the oid received at its position. -/
theorem setOidMap_at {m : OidMap} {res : List Oid} (hnodup : m.keys.Nodup)
    (h : (setOidMap m res).2 = none) {i : Nat} {k : OidKey} (hk : m.keys[i]? = some k) :
    res[i]? = some ((setOidMap m res).1.at k) := by
  obtain ⟨hlen, -⟩ := setOidMap_eq_none_iff.mp h
  have hlen' : m.entries.length = res.length := by simpa [OidMap.keys] using hlen
  have hi := (List.getElem?_eq_some_iff.mp hk).1
  unfold setOidMap at h ⊢
  rw [if_neg (not_not_intro hlen')] at h ⊢
  have hentries := setOids_fst_of_none hlen' (Option.map_eq_none_iff.mp h)
  have hlookup : ((m.entries.map Prod.fst).zip res).lookup k = res[i]? := lookup_zip hnodup hk
  simp only [OidMap.at, hentries, hlookup]
  rw [List.getElem?_eq_getElem (by omega)]
  rfl

/-! ## What a call that throws leaves

The loop assigns as it goes. The oids in front of the first null one have been written when it
throws. -/

/-- The oids in the order of the types. -/
def OidMap.oids (m : OidMap) : List Oid := m.entries.map Prod.snd

/-- The oids that `set_oid_map` writes: those received before the first null one. -/
def written (res : List Oid) : List Oid := res.takeWhile (· ≠ nullOid)

theorem OidMap.ext_oids {m m' : OidMap} (hkeys : m.keys = m'.keys) (hoids : m.oids = m'.oids) :
    m = m' := by
  have hzip (m : OidMap) : m.entries = m.keys.zip m.oids := List.zip_of_prod rfl rfl
  have hentries : m.entries = m'.entries := by rw [hzip, hzip m', hkeys, hoids]
  cases m
  cases m'
  cases hentries
  rfl

/-- An exception leaves the oids before it written and the others as they were. -/
theorem map_snd_setOids {es : List (OidKey × Oid)} {rs : List Oid} (hlen : es.length = rs.length) :
    (setOids es rs).1.map Prod.snd =
      written rs ++ (es.map Prod.snd).drop (written rs).length := by
  induction es generalizing rs with
  | nil =>
      obtain rfl := List.length_eq_zero_iff.mp hlen.symm
      rfl
  | cons e es ih =>
      cases rs with
      | nil => cases hlen
      | cons r rs =>
          unfold setOids written
          split
          · next hr => simp [hr]
          · next hr =>
              have ih' := ih (Nat.succ.inj hlen)
              unfold written at ih'
              simp [hr, ih']

/-- New oids up to the first null one, and old ones from there. -/
theorem oids_setOidMap {m : OidMap} {res : List Oid} (hlen : m.keys.length = res.length) :
    (setOidMap m res).1.oids = written res ++ m.oids.drop (written res).length := by
  have hlen' : m.entries.length = res.length := by simpa [OidMap.keys] using hlen
  unfold setOidMap
  rw [if_neg (not_not_intro hlen')]
  exact map_snd_setOids hlen'

/-- The map is unchanged when what is written is there already. -/
theorem setOidMap_eq_self_iff {m : OidMap} {res : List Oid} (hlen : m.keys.length = res.length) :
    (setOidMap m res).1 = m ↔ written res <+: m.oids := by
  rw [List.prefix_iff_eq_append, ← oids_setOidMap hlen]
  constructor
  · intro h
    rw [h]
  · exact OidMap.ext_oids (keys_setOidMap m res)

/-- If `set_oid_map` throws for these oids, it writes only what the map has already. -/
def Harmless (m : OidMap) (res : List Oid) : Prop :=
  m.keys.length ≠ res.length ∨ nullOid ∉ res ∨ written res <+: m.oids

instance (m : OidMap) (res : List Oid) : Decidable (Harmless m res) :=
  inferInstanceAs (Decidable (_ ∨ _ ∨ _))

/-- A failed update leaves the map alone exactly for harmless oids. -/
theorem setOidMap_keeps_iff (m : OidMap) (res : List Oid) :
    ((setOidMap m res).2 ≠ none → (setOidMap m res).1 = m) ↔ Harmless m res := by
  unfold Harmless
  by_cases hlen : m.keys.length = res.length
  · rw [Ne, setOidMap_eq_none_iff, setOidMap_eq_self_iff hlen]
    simp only [hlen, true_and, not_not, ne_eq, not_true_eq_false, false_or]
    exact imp_iff_not_or
  · have hlen' : m.entries.length ≠ res.length := by simpa [OidMap.keys] using hlen
    have hself : (setOidMap m res).1 = m := by rw [setOidMap, if_pos hlen']
    exact ⟨fun _ => .inl hlen, fun _ _ => hself⟩

end OzoPg
