import OpenPeer.DNSSRVResolverQuery

/-!
# The look-ups of the names of SRV records

The look-ups that an SRV answer starts are those of its records whose names are not
addresses, each known by the place of its record.
-/
namespace OpenPeer.DNS

section Resolving

variable (lookup : Lookup) (ttl : Nat)

variable (place : Nat)

@[simp] theorem length_resolveAll (records : List SRVRecord) :
    (lookup.resolveAll ttl place records).length = records.length := by
  induction records generalizing place with
  | nil => rfl
  | cons record records ih => simp [Lookup.resolveAll, ih]

theorem getElem?_resolveAll (i : Nat) (records : List SRVRecord) :
    (lookup.resolveAll ttl place records)[i]? = (records[i]?).map (lookup.resolve ttl (place + i)) := by
  induction records generalizing place i with
  | nil => rfl
  | cons record records ih =>
    cases i with
    | zero => rfl
    | succ i =>
      simp only [Lookup.resolveAll, List.getElem?_cons_succ, ih]
      rw [show place + 1 + i = place + (i + 1) by omega]

variable {record : SRVRecord}

theorem resolve_address {ip : ICESocket.IPAddress}
    (hip : lookup.convert record.mName record.mPort = some ip) :
    lookup.resolve ttl place record = (lookup.instantRecord ttl record ip, none) := by
  rw [Lookup.resolve, hip]

theorem resolve_name (hname : lookup.convert record.mName record.mPort = none) :
    lookup.resolve ttl place record = (record, some (.resolver place)) := by
  rw [Lookup.resolve, hname]

theorem started_sublist (records : List SRVRecord) :
    ((lookup.resolveAll ttl place records).filterMap Prod.snd).Sublist
      ((List.range' place records.length).map Query.resolver) := by
  induction records generalizing place with
  | nil => exact List.Sublist.slnil
  | cons record records ih =>
    rw [Lookup.resolveAll, List.length_cons, List.range'_succ, List.map_cons]
    cases hip : lookup.convert record.mName record.mPort with
    | none =>
      rw [resolve_name lookup ttl place hip]
      exact (ih (place + 1)).cons_cons _
    | some ip =>
      rw [resolve_address lookup ttl place hip]
      exact (ih (place + 1)).cons _

theorem resolver_injective : Function.Injective Query.resolver := by
  intro i j hsame
  exact Query.resolver.inj hsame

theorem started_nodup (records : List SRVRecord) :
    ((lookup.resolveAll ttl place records).filterMap Prod.snd).Nodup := by
  apply (started_sublist lookup ttl place records).nodup
  exact (List.nodup_range' (h := Nat.one_pos)).map resolver_injective

/-- What is looked up for an answer. -/
def Lookup.lookUps (records : List SRVRecord) : List Happening :=
  (records.zip (lookup.resolveAll ttl 0 records)).filterMap fun pair =>
    pair.2.2.map fun query => .lookedUp query lookup.recordKind pair.1.mName

variable (records : List SRVRecord)

/-- The name of each record is looked up for its own place unless it is an address, and nothing else is. -/
theorem mem_lookUps (happening : Happening) :
    happening ∈ lookup.lookUps ttl records ↔
      ∃ i record, records[i]? = some record ∧ lookup.convert record.mName record.mPort = none ∧
        happening = .lookedUp (.resolver i) lookup.recordKind record.mName := by
  simp only [Lookup.lookUps, List.mem_filterMap, Option.map_eq_some_iff]
  constructor
  · rintro ⟨⟨record, resolved⟩, hpair, query, hquery, rfl⟩
    obtain ⟨i, hi⟩ := List.mem_iff_getElem?.mp hpair
    obtain ⟨hrecord, hresolved⟩ := List.getElem?_zip_eq_some.mp hi
    dsimp only at hrecord hresolved hquery
    rw [getElem?_resolveAll, hrecord, Option.map_some, Nat.zero_add, Option.some_inj] at hresolved
    subst hresolved
    cases hip : lookup.convert record.mName record.mPort with
    | none =>
      rw [resolve_name lookup ttl i hip, Option.some_inj] at hquery
      exact ⟨i, record, hrecord, hip, by rw [hquery]⟩
    | some ip =>
      rw [resolve_address lookup ttl i hip] at hquery
      cases hquery
  · rintro ⟨i, record, hrecord, hname, rfl⟩
    refine ⟨(record, lookup.resolve ttl i record), List.mem_iff_getElem?.mpr ⟨i, ?_⟩, .resolver i, ?_, rfl⟩
    · apply List.getElem?_zip_eq_some.mpr
      simp [getElem?_resolveAll, hrecord]
    · rw [resolve_name lookup ttl i hname]

theorem mem_resolvers (query : Query) :
    some query ∈ (lookup.resolveAll ttl 0 records).map Prod.snd ↔
      ∃ i record, records[i]? = some record ∧ lookup.convert record.mName record.mPort = none ∧
        query = .resolver i := by
  simp only [List.mem_iff_getElem?, List.getElem?_map, getElem?_resolveAll, Nat.zero_add, Option.map_eq_some_iff]
  constructor
  · rintro ⟨i, resolved, ⟨record, hrecord, rfl⟩, hquery⟩
    cases hip : lookup.convert record.mName record.mPort with
    | none =>
      rw [resolve_name lookup ttl i hip, Option.some_inj] at hquery
      exact ⟨i, record, hrecord, hip, hquery.symm⟩
    | some ip =>
      rw [resolve_address lookup ttl i hip] at hquery
      cases hquery
  · rintro ⟨i, record, hrecord, hname, rfl⟩
    exact ⟨i, lookup.resolve ttl i record, ⟨record, hrecord, rfl⟩, by rw [resolve_name lookup ttl i hname]⟩

theorem resolvers_none {records : List SRVRecord} (hnone : lookup.lookUps ttl records = []) :
    ((lookup.resolveAll ttl 0 records).map Prod.snd).all Option.isNone = true := by
  rw [List.all_eq_true]
  intro waits hmem
  cases waits with
  | none => rfl
  | some query =>
    obtain ⟨i, record, hrecord, hname, -⟩ := (mem_resolvers lookup ttl records query).mp hmem
    have hlookedUp := (mem_lookUps lookup ttl records _).mpr ⟨i, record, hrecord, hname, rfl⟩
    rw [hnone] at hlookedUp
    cases hlookedUp

end Resolving

end OpenPeer.DNS
