import Mathlib.Data.List.AList
import Lasso.ErrorCode
import Lasso.Library.Search
import Lasso.Library.Tables
import Lasso.Messages.IdFf

/-!
# Identities

The federations of a principal, one for each remote provider, and the resource offerings of its
services, which are told apart by entry IDs.
-/

namespace Lasso

/-- `LassoFederation` -/
structure Federation where
  remoteProviderId : String
  localNameIdentifier : Option LassoNode := none
  remoteNameIdentifier : Option LassoNode := none

/-- The content of a name identifier of either protocol. -/
def LassoNode.nameContent : LassoNode → Option String
  | .samlNameIdentifier n => n.content
  | .saml2NameId n => n.content
  | _ => none

/-- `lasso_federation_verify_name_identifier` -/
def Federation.verifyNameIdentifier (f : Federation) (nameIdentifier : LassoNode) : Bool :=
  match nameIdentifier.nameContent with
  | none => false
  | some content =>
    f.localNameIdentifier.bind (·.nameContent) == some content ||
      f.remoteNameIdentifier.bind (·.nameContent) == some content

/-- `LassoDiscoResourceOffering`: its identifier, the resource, and the type of the service. -/
structure DiscoResourceOffering where
  entryId : Option String := none
  resourceId : Option String := none
  serviceType : Option String := none
deriving DecidableEq

/-- `LassoIdentity`, with the fields of the Web Services Framework. -/
structure Identity where
  federations : AList (fun _ : String => Federation) := ∅
  resourceOfferingsMap : AList (fun _ : String => DiscoResourceOffering) := ∅
  svcMdid : List String := []
  lastEntryId : UInt32 := 0
  isDirty : Bool := false

namespace Identity

/-! ## Federations -/

/-- `lasso_identity_add_federation` -/
def addFederation (i : Identity) (federation : Federation) : Identity :=
  { i with
    federations := i.federations.insert federation.remoteProviderId federation
    isDirty := true }

/-- `lasso_identity_get_federation` -/
def getFederation (i : Identity) (providerId : Option String) : Option Federation :=
  providerId.bind fun providerId => i.federations.lookup providerId

/-- `lasso_identity_remove_federation` -/
def removeFederation (i : Identity) (providerId : Option String) : Rc × Identity :=
  match providerId with
  | none => (.param .badTypeOrNullObj, i)
  | some providerId =>
    if (i.federations.lookup providerId).isNone then (.profile .federationNotFound, i)
    else (.ok, { i with federations := i.federations.erase providerId, isDirty := true })

/-- The identity after the federation found under a key was changed. -/
def replaceFederation (i : Identity) (providerId : String) (federation : Federation) : Identity :=
  { i with federations := i.federations.replace providerId federation, isDirty := true }

theorem getFederation_addFederation (i : Identity) (federation : Federation) :
    (i.addFederation federation).getFederation (some federation.remoteProviderId) =
      some federation := by
  simp [addFederation, getFederation]

theorem getFederation_replaceFederation {i : Identity} {providerId : String}
    {federation : Federation} (h : (i.getFederation (some providerId)).isSome) :
    (i.replaceFederation providerId federation).getFederation (some providerId) =
      some federation := by
  obtain ⟨old, hold⟩ := Option.isSome_iff_exists.mp h
  replace hold : i.federations.lookup providerId = some old := hold
  simp [replaceFederation, getFederation, Tables.lookup_replace, hold]

theorem getFederation_replaceFederation_ne {i : Identity} {providerId : String}
    {federation : Federation} {key : Option String} (h : key ≠ some providerId) :
    (i.replaceFederation providerId federation).getFederation key = i.getFederation key := by
  cases key with
  | none => rfl
  | some key =>
    have hne : key ≠ providerId := fun heq => h (congrArg some heq)
    simp [replaceFederation, getFederation, Tables.lookup_replace, hne]

theorem getFederation_removeFederation (i : Identity) (providerId : String) :
    (i.removeFederation (some providerId)).2.getFederation (some providerId) = none := by
  unfold removeFederation
  dsimp only
  split_ifs with h
  · exact Option.isNone_iff_eq_none.mp h
  · exact AList.lookup_erase _ i.federations

theorem getFederation_removeFederation_ne {i : Identity} {providerId : String}
    {key : Option String} (h : key ≠ some providerId) :
    (i.removeFederation (some providerId)).2.getFederation key = i.getFederation key := by
  unfold removeFederation
  dsimp only
  split_ifs
  · rfl
  · cases key with
    | none => rfl
    | some key => exact AList.lookup_erase_ne fun heq => h (congrArg some heq)

theorem getFederation_addFederation_ne {i : Identity} {federation : Federation}
    {key : Option String} (h : key ≠ some federation.remoteProviderId) :
    (i.addFederation federation).getFederation key = i.getFederation key := by
  cases key with
  | none => rfl
  | some key => exact AList.lookup_insert_ne fun heq => h (congrArg some heq)

/-- Adding a federation again that is already found leaves it where it is. -/
theorem getFederation_addFederation_of_eq {i : Identity} {federation : Federation}
    {key : Option String} (h : i.getFederation key = some federation) :
    (i.addFederation federation).getFederation key = some federation := by
  by_cases hkey : key = some federation.remoteProviderId
  · rw [hkey]
    exact getFederation_addFederation i federation
  · rw [getFederation_addFederation_ne hkey]
    exact h

/-! ## Resource offerings -/

/-- An entry ID as `%d` writes it, which takes the counter for a signed number. -/
def entryIdText (lastEntryId : UInt32) : String := lastEntryId.toInt32.toInt.repr

/-- The loop that looks for an entry ID, and the counter after it. It does not end if every value
of the counter is taken. -/
def freshEntryId (i : Identity) : Option (String × UInt32) :=
  (Search.firstFree (· + 1) (fun id => (i.resourceOfferingsMap.lookup (entryIdText id)).isSome)
    UInt32.size i.lastEntryId).map fun id => (entryIdText id, id + 1)

/-- `lasso_identity_add_resource_offering`, for a new offering: the entry ID that is put into the
offering, and the identity. -/
def addResourceOffering (i : Identity) (offering : DiscoResourceOffering) :
    Option (String × Identity) :=
  i.freshEntryId.map fun (entryId, lastEntryId) =>
    (entryId, { i with
      resourceOfferingsMap :=
        i.resourceOfferingsMap.insert entryId { offering with entryId := some entryId }
      lastEntryId
      isDirty := true })

/-- `lasso_identity_get_resource_offering` -/
def getResourceOffering (i : Identity) (entryId : String) : Option DiscoResourceOffering :=
  i.resourceOfferingsMap.lookup entryId

/-- `lasso_identity_remove_resource_offering` -/
def removeResourceOffering (i : Identity) (entryId : String) : Bool × Identity :=
  if (i.resourceOfferingsMap.lookup entryId).isNone then (false, i)
  else
    (true, { i with
      resourceOfferingsMap := i.resourceOfferingsMap.erase entryId
      isDirty := true })

end Identity

end Lasso
