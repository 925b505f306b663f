import Courier.Json.Record
import Courier.Outbox.Raised

/-!
# The events that users are notified of

A translation has been completed, or a user has been created. The payload is written as JSON by the
one who raises the event, and read again by the one who handles it.

* `TranslationCreated.new`, `UserCreated.new`: the events with their payloads.
-/

namespace Courier.Notification

/-- The topic of translations, and the type of the event that one has been completed. -/
def translationTopic : String := "translation"
def translationCreated : String := "translation.created"

/-- The topic of users, and the type of the event that one has been created. -/
def userTopic : String := "user"
def userCreated : String := "user.created"

/-- A translation that has been completed for a user. -/
structure TranslationCreated where
  translationId : Uuid
  userId : Uuid
  source : String
  destination : String
  original : String
  translation : String
  deriving DecidableEq

instance : Json.Model TranslationCreated where
  fields := [.plain "translation_id" Uuid, .plain "user_id" Uuid, .plain "source" String,
    .plain "destination" String, .plain "original" String, .plain "translation" String]
  toRecord t := (t.translationId, t.userId, t.source, t.destination, t.original, t.translation, ())
  ofRecord := fun (translationId, userId, source, destination, original, translation, _) =>
    ⟨translationId, userId, source, destination, original, translation⟩
  ofRecord_toRecord _ := rfl

/-- A user who has been created. -/
structure UserCreated where
  userId : Uuid
  email : String
  name : Option String
  deriving DecidableEq

instance : Json.Model UserCreated where
  fields := [.plain "user_id" Uuid, .plain "email" String, .sparse "name" (none : Option String)]
  toRecord u := (u.userId, u.email, u.name, ())
  ofRecord := fun (userId, email, name, _) => ⟨userId, email, name⟩
  ofRecord_toRecord _ := rfl

/-- The event of a translation that has just been completed. -/
def TranslationCreated.new (t : TranslationCreated) : Action DomainEvent := do
  let metadata ← EventMetadata.new translationCreated "translation" t.translationId.text
  return ⟨metadata, .ok (Json.Model.print t)⟩

/-- The event of a user who has just been created. -/
def UserCreated.new (u : UserCreated) : Action DomainEvent := do
  let metadata ← EventMetadata.new userCreated "user" u.userId.text
  return ⟨metadata, .ok (Json.Model.print u)⟩

end Courier.Notification
