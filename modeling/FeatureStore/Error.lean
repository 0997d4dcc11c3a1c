import FeatureStore.Provider.Type

/-!
What can go wrong, by the distinctions that a caller needs, with one wording and the causes below it.
-/
namespace FeatureStore

inductive Error where
  | duplicateRegistration (registry key : String)
  | unknownProviderType (name : String)
  | unknownJobKind (name : String)
  | deserialization (kind : String) (fault : Json.Fault)
  | unsupportedCapability (provider : ProviderType) (capability : Capability) (concrete : String)
  | notFound (kind id : String)
  | alreadyExists (kind id : String)
  | invalidInput (message : String)
  | unsupported (message : String)
  | storage (context detail : String)
  | jobFailed (job message : String)
  | internal (message : String)
  deriving Repr

namespace Error

def message : Error → String
  | duplicateRegistration registry key =>
    registry ++ " factory already registered for '" ++ key ++ "'"
  | unknownProviderType name => "no provider of type: " ++ name
  | unknownJobKind name => "no runner for job kind: " ++ name
  | deserialization kind fault => "failed to deserialize " ++ kind ++ " config: " ++ fault.message
  | unsupportedCapability provider capability concrete =>
    concrete ++ " (" ++ provider.name ++ ") cannot be used as an " ++ capability.name
  | notFound kind id => kind ++ " '" ++ id ++ "' not found"
  | alreadyExists kind id => kind ++ " '" ++ id ++ "' already exists"
  | invalidInput message => "Invalid input: " ++ message
  | unsupported message => "Unsupported operation: " ++ message
  | storage context detail => "Storage error: " ++ context ++ ": " ++ detail
  | jobFailed job message => "job '" ++ job ++ "' failed: " ++ message
  | internal message => "Internal error: " ++ message

def causes : Error → List String
  | deserialization _ fault => [fault.message]
  | storage context detail => [context ++ ": " ++ detail]
  | _ => []

def isNotFound : Error → Bool
  | notFound _ _ => true
  | _ => false

def isAlreadyExists : Error → Bool
  | alreadyExists _ _ => true
  | _ => false

end Error
end FeatureStore
