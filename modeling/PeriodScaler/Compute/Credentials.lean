/-!
# Credentials

Where access tokens come from: one that was handed over, a service account with a private key, or
the metadata server of the machine.

Model of `Credentials` and `ServiceAccountKey`. Nothing is left out.
-/

namespace PeriodScaler

/-- The entries of a service account file that are used. -/
structure ServiceAccount where
  kind : Option String
  clientEmail : String
  privateKey : String
  tokenUri : String
  project : Option String
  deriving DecidableEq, Repr

/-- Where access tokens come from. -/
inductive Credentials where
  | accessToken (token : String)
  | serviceAccount (account : ServiceAccount)
  | metadataServer
  deriving DecidableEq, Repr

/-- A description that keeps a token to itself. -/
def Credentials.describe : Credentials → String
  | accessToken _ => "AccessToken(<redacted>)"
  | serviceAccount account => "ServiceAccount(" ++ account.clientEmail ++ ")"
  | metadataServer => "MetadataServer"

end PeriodScaler
