import PgNats.Config

/-!
# The messages between the processes

The model of `src/bgw/launcher/message.rs` and of `SubscriberMessage` in
`src/bgw/subscriber/message.rs`. A database is known by the 32 bits of its oid. The variants
`ChangeStatus`, which exist in test builds only, are left out.
-/

namespace PgNats

/-- `EXTENSION_NAME`. -/
def EXTENSION_NAME : String := "pgnats"

/-- `FDW_EXTENSION_NAME`. -/
def FDW_EXTENSION_NAME : String := "pgnats_fdw"

/-- The oid of a database. -/
abbrev Oid := UInt32

/-- `ExtensionStatus`. -/
inductive ExtensionStatus where
  /-- The extension and a foreign server are there. -/
  | exist
  /-- The extension is not installed. -/
  | noExtension
  /-- The extension is installed, without a foreign server. -/
  | noForeignServer
  deriving DecidableEq, Repr

/-- `LauncherMessage`: what backends and subscribers put on the launcher's bus. -/
inductive LauncherMessage where
  /-- A subscriber reports what it found at its start. -/
  | dbExtensionStatus (db_oid : Oid) (status : ExtensionStatus)
  /-- A backend validated the options of a server. -/
  | newConfig (db_oid : Oid) (config : Config)
  /-- A backend asks for a subscription. -/
  | subscribe (db_oid : Oid) (subject fn_name : String)
  /-- A backend asks for the end of a subscription. -/
  | unsubscribe (db_oid : Oid) (subject fn_name : String)
  /-- A subscriber reports that it exits. -/
  | subscriberExit (db_oid : Oid) (reason : Except String Unit)
  /-- A foreign server was dropped. No code of the repository sends it. -/
  | foreignServerDropped (db_oid : Oid)
  deriving DecidableEq

/-- `SubscriberMessage`: what the launcher forwards to a subscriber. -/
inductive SubscriberMessage where
  /-- Use this configuration. -/
  | newConfig (config : Config)
  /-- Subscribe the function. -/
  | subscribe (subject fn_name : String)
  /-- Unsubscribe the function. -/
  | unsubscribe (subject fn_name : String)
  deriving DecidableEq, Repr

/-- The database that a message is about. -/
def LauncherMessage.dbOid : LauncherMessage → Oid
  | .dbExtensionStatus db_oid _ => db_oid
  | .newConfig db_oid _ => db_oid
  | .subscribe db_oid _ _ => db_oid
  | .unsubscribe db_oid _ _ => db_oid
  | .subscriberExit db_oid _ => db_oid
  | .foreignServerDropped db_oid => db_oid

/-- The configuration that a forwarded message carries, if it carries one. -/
def SubscriberMessage.config? : SubscriberMessage → Option Config
  | .newConfig config => some config
  | .subscribe _ _ => none
  | .unsubscribe _ _ => none

/-- The messages that backends send. -/
def LauncherMessage.FromBackend : LauncherMessage → Prop
  | .newConfig _ _ => True
  | .subscribe _ _ _ => True
  | .unsubscribe _ _ _ => True
  | _ => False

/-- The messages that subscribers send about themselves. -/
def LauncherMessage.IsReport : LauncherMessage → Prop
  | .dbExtensionStatus _ _ => True
  | .subscriberExit _ _ => True
  | _ => False

end PgNats
