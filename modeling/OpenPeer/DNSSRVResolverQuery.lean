import OpenPeer.DNSListQuery
import OpenPeer.Places

/-!
# The look-up that resolves SRV records

The SRV records of a name are looked up, and then the addresses of each record, whose look-up
is at the place of the record in a list of its own. When there are no SRV records the
addresses of the name are looked up instead. The delegate is told when no look-up is left.

A look-up tells that it is complete by a message, which is handled after the look-up was
created but perhaps before the one who created it has kept it, and perhaps after it was
cancelled. The object lives as long as messages for it come.
-/
namespace OpenPeer.DNS

open Places

structure SRVLookupTypes where
  autoLookupA : Bool := false
  autoLookupAAAA : Bool := false
  fallbackToALookup : Bool := false
  fallbackToAAAALookup : Bool := false
  deriving DecidableEq

/-- What is asked for, and how the name of a record is read as an address. -/
structure Lookup where
  mOriginalName : String
  mOriginalService : String
  mOriginalProtocol : String
  mDefaultPort : Nat
  mDefaultPriority : Nat
  mDefaultWeight : Nat
  mLookupType : SRVLookupTypes
  /-- The address of a name that is convertible, with a port unless the name has one. -/
  convert : String → Nat → Option ICESocket.IPAddress
  isIPv4 : ICESocket.IPAddress → Bool
  /-- An empty name is not looked up, so there was no SRV look-up of it. -/
  named : mOriginalName ≠ ""

/-- The look-ups it starts; that of a record is known by the place of the record. -/
inductive Query where
  | srv
  | backup
  | resolver (place : Nat)
  deriving DecidableEq

inductive Happening where
  | lookedUp (query : Query) (kind : LookupKind) (name : String)
  /-- The delegate is told, and what the result is then. -/
  | reported (result : Option SRVResult)
  /-- There was a throw because of a bad state. -/
  | badState
  /-- There was a throw because an empty name was looked up. -/
  | invalidUsage
  deriving DecidableEq

def Happening.throws : Happening → Bool
  | .badState => true
  | .invalidUsage => true
  | _ => false

structure DNSSRVResolverQuery where
  mDelegate : Bool := true
  /-- The SRV look-up is kept. -/
  mSRVLookup : Bool := false
  mBackupLookup : Bool := false
  mSRVResult : Option SRVResult := none
  mResolvers : List (Option Query) := []
  /-- The look-ups that were started, and of which no message was handled yet. -/
  inFlight : List Query := [.srv]
  /-- What the look-ups had whose messages were handled. -/
  answers : List (Query × Results) := []
  happenings : List Happening := []
  /-- How much had happened when it was cancelled. -/
  cancelledAfter : Option Nat := none

inductive Event where
  /-- The SRV look-up is kept by the one who created it. -/
  | created
  | onLookupCompleted (query : Query) (results : Results)
  | cancel

section Lookups

variable (lookup : Lookup)

/-- How the name of a record is looked up. -/
def Lookup.recordKind : LookupKind :=
  if lookup.mLookupType.autoLookupA then
    if lookup.mLookupType.autoLookupAAAA then .aOrAAAA else .a
  else .aaaa

/-- How the name is looked up when there are no SRV records, if at all. -/
def Lookup.backupKind : Option LookupKind :=
  if lookup.mLookupType.fallbackToALookup then
    if lookup.mLookupType.fallbackToAAAALookup then some .aOrAAAA else some .a
  else if lookup.mLookupType.fallbackToAAAALookup then some .aaaa
  else none

/-- The name of a record is an address or it can be looked up. -/
def Lookup.hasName (record : SRVRecord) : Bool :=
  (lookup.convert record.mName record.mPort).isSome || record.mName ≠ ""

/-- A record whose name is an address has the address as its result. -/
def Lookup.instantRecord (ttl : Nat) (record : SRVRecord) (ip : ICESocket.IPAddress) : SRVRecord :=
  let ipResult : AResult := { mName := record.mName, mTTL := ttl, mIPAddresses := [ip] }
  if lookup.isIPv4 ip then { record with mAResult := some ipResult } else { record with mAAAAResult := some ipResult }

/-- The record at a place and the look-up of its name, which there is unless the name is an address. -/
def Lookup.resolve (ttl place : Nat) (record : SRVRecord) : SRVRecord × Option Query :=
  match lookup.convert record.mName record.mPort with
  | some ip => (lookup.instantRecord ttl record ip, none)
  | none => (record, some (.resolver place))

def Lookup.resolveAll (ttl : Nat) : Nat → List SRVRecord → List (SRVRecord × Option Query)
  | _, [] => []
  | place, record :: records => lookup.resolve ttl place record :: resolveAll ttl (place + 1) records

/-- The record of the name itself, with its addresses. -/
def Lookup.backupResult (results : Results) : SRVResult where
  mName := lookup.mOriginalName
  mService := lookup.mOriginalService
  mProtocol := lookup.mOriginalProtocol
  mTTL := ((results.mA.or results.mAAAA).map AResult.mTTL).getD 0
  mRecords :=
    [SRVRecord.fixDefaultPort lookup.mDefaultPort
      { mName := lookup.mOriginalName
        mPriority := lookup.mDefaultPriority
        mWeight := lookup.mDefaultWeight
        mPort := 0
        mAResult := results.mA
        mAAAAResult := results.mAAAA }]

end Lookups

/-- A record gets the results of the look-up of its name. -/
def SRVRecord.resolved (results : Results) (record : SRVRecord) : SRVRecord :=
  SRVRecord.fixDefaultPort record.mPort { record with mAResult := results.mA, mAAAAResult := results.mAAAA }

namespace DNSSRVResolverQuery

variable (s : DNSSRVResolverQuery)

def happen (happening : Happening) : DNSSRVResolverQuery := { s with happenings := s.happenings ++ [happening] }

/-- A look-up is complete when its message was handled or it was cancelled. -/
def isCompleted (query : Query) : Bool := query ∉ s.inFlight || s.cancelledAfter.isSome

def isComplete : Bool :=
  s.mResolvers.all Option.isNone && if s.mBackupLookup then s.isCompleted .backup else s.isCompleted .srv

def report : DNSSRVResolverQuery :=
  if !s.isComplete then s
  else if !s.mDelegate then s
  else { s.happen (.reported s.mSRVResult) with mResolvers := [], mDelegate := false }

/-- The look-ups of the names of records, in order, up to a record that has no name. -/
def startResolvers (lookup : Lookup) (answer : SRVResult) : DNSSRVResolverQuery :=
  let named := answer.mRecords.takeWhile lookup.hasName
  let resolved := lookup.resolveAll answer.mTTL 0 named
  { s with
    mSRVResult := some { answer with mRecords := resolved.map Prod.fst ++ answer.mRecords.drop named.length }
    mResolvers := s.mResolvers ++ resolved.map Prod.snd
    inFlight := s.inFlight ++ resolved.filterMap Prod.snd
    happenings := s.happenings ++ (named.zip resolved).filterMap fun pair =>
      pair.2.2.map fun query => .lookedUp query lookup.recordKind pair.1.mName }

/-- An SRV look-up has a result when it has SRV records. -/
def handleSRVCompleted (lookup : Lookup) (srvLookup : Results) : DNSSRVResolverQuery :=
  match srvLookup.mSRV with
  | some answer =>
    if answer.mRecords.all lookup.hasName then (s.startResolvers lookup answer).report
    else (s.startResolvers lookup answer).happen .invalidUsage
  | none =>
    match lookup.backupKind with
    | some kind =>
      { s.happen (.lookedUp .backup kind lookup.mOriginalName) with
        mBackupLookup := true
        inFlight := s.inFlight ++ [.backup] }
    | none => s.report

def handleBackupCompleted (lookup : Lookup) (backupLookup : Results) : DNSSRVResolverQuery :=
  let s : DNSSRVResolverQuery :=
    if backupLookup.hasResult then { s with mSRVResult := some (lookup.backupResult backupLookup) } else s
  s.report

/-- The record at the place of the look-up gets its results. -/
def handleResolverCompleted (query : Query) (results : Results) : DNSSRVResolverQuery :=
  match s.mSRVResult with
  | none => s.happen .badState
  | some result =>
    match find query result.mRecords s.mResolvers with
    | none => s.happen .badState
    | some place =>
      report
        { s with
          mSRVResult := some { result with mRecords := result.mRecords.modify place (SRVRecord.resolved results) }
          mResolvers := s.mResolvers.set place none }

def onLookupCompleted (lookup : Lookup) (query : Query) (results : Results) : DNSSRVResolverQuery :=
  if s.mSRVLookup && query = .srv then s.handleSRVCompleted lookup results
  else if s.mBackupLookup && query = .backup then s.handleBackupCompleted lookup results
  else s.handleResolverCompleted query results

def cancel : DNSSRVResolverQuery :=
  { s with
    mResolvers := []
    cancelledAfter := some (s.cancelledAfter.getD s.happenings.length) }

/-- Each message is handled once, and nothing is done after a throw. It can be cancelled when it was created. -/
def take (lookup : Lookup) (s : DNSSRVResolverQuery) (e : Event) : DNSSRVResolverQuery :=
  if s.happenings.any Happening.throws then s
  else
    match e with
    | .created => { s with mSRVLookup := true }
    | .onLookupCompleted query results =>
      if query ∈ s.inFlight then
        onLookupCompleted
          { s with inFlight := s.inFlight.erase query, answers := s.answers ++ [(query, results)] } lookup query results
      else s
    | .cancel => if s.mSRVLookup then s.cancel else s

end DNSSRVResolverQuery

end OpenPeer.DNS
