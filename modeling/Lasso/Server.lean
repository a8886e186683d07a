import Mathlib.Data.List.AList
import Lasso.Provider.Basic

/-!
# Servers

A server is the local party, and the table of the providers it knows. The table is only filled by
`addProvider`, so that every provider is found under its own entity ID.
-/

namespace Lasso

structure Server where
  /-- the local provider -/
  provider : Provider
  providers : AList (fun _ : String => Provider) := ∅
  certificate : Option String := none
  encryptionPrivateKeys : List SecKey := []

namespace Server

/-- `lasso_server_get_provider` -/
def getProvider (s : Server) (providerId : Option String) : Option Provider :=
  match providerId with
  | none => none
  | some providerId => if providerId = "" then none else s.providers.lookup providerId

/-- `lasso_server_add_provider2` -/
def addProvider (s : Server) (p : Provider) : Rc × Server :=
  match p.providerId with
  | none => (.param .nonInitializedObject, s)
  | some providerId => (.ok, { s with providers := s.providers.insert providerId p })

/-- Set the role of the local provider. -/
def setRole (s : Server) (role : ProviderRole) : Server :=
  { s with provider := { s.provider with role } }

/-- Set the role of a provider of the table. -/
def setProviderRole (s : Server) (providerId : Option String) (role : ProviderRole) : Server :=
  match providerId, s.getProvider providerId with
  | some providerId, some p =>
    { s with providers := s.providers.insert providerId { p with role } }
  | _, _ => s

@[simp] theorem getProvider_none (s : Server) : s.getProvider none = none := rfl

@[simp] theorem getProvider_setRole (s : Server) (role : ProviderRole) (id : Option String) :
    (s.setRole role).getProvider id = s.getProvider id := rfl

/-- Setting a role changes no provider but in its role. -/
theorem getProvider_setProviderRole (s : Server) (providerId id : Option String)
    (role : ProviderRole) :
    (s.setProviderRole providerId role).getProvider id =
      if id = providerId then (s.getProvider id).map fun p => { p with role }
      else s.getProvider id := by
  cases providerId with
  | none => cases id <;> simp [setProviderRole]
  | some providerId =>
    cases id with
    | none => simp
    | some id =>
      unfold setProviderRole
      by_cases hempty : id = ""
      · cases s.getProvider (some providerId) <;> simp [getProvider, hempty]
      · by_cases hid : id = providerId
        · subst hid
          cases hp : s.getProvider (some id) with
          | none => simp [hp]
          | some p => simp [getProvider, hempty]
        · cases hp : s.getProvider (some providerId) with
          | none => simp [hid]
          | some p => simp [getProvider, hempty, hid]

end Server

end Lasso
