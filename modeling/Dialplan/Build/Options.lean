import Dialplan.Connect.Context
import Dialplan.Error

/-! Options of one build. -/

namespace Dialplan

structure BuildOptions where
  /-- Selects the cache partition, and the demand of attempts. -/
  encrypted : Bool
  /-- The application key that is sent with every open. -/
  key : Option String
  /-- When given, only these transport definitions are enabled. -/
  enabledTransports : Option (List String)
  /-- Transport definitions to disable. -/
  disabledTransports : Option (List String)
deriving DecidableEq

namespace BuildOptions

def default : BuildOptions := ⟨false, none, none, none⟩

/-- A transport definition is enabled unless the enabled ones are listed without it or
the disabled ones with it. -/
def isEnabled (options : BuildOptions) (name : String) : Bool :=
  (options.enabledTransports.map (·.contains name)).getD true &&
    !(options.disabledTransports.map (·.contains name)).getD false

/-- The demands of an attempt under these options. -/
def context (options : BuildOptions) : Context := ⟨options.encrypted, 0⟩

def record : Json.Record BuildOptions where
  title := "BuildOptions"
  fields := [
    .of "encrypted" false .bool encrypted fun b o => { o with encrypted := b },
    .of "key" false (.optional .string) key fun k o => { o with key := k },
    .of "enabledTransports" false (.optional (.list .string)) enabledTransports
      fun names o => { o with enabledTransports := names },
    .of "disabledTransports" false (.optional (.list .string)) disabledTransports
      fun names o => { o with disabledTransports := names }]
  blank := default
  lenient := true

def codec : Json.Codec BuildOptions := record.codec

/-- Reads options from JSON text. -/
def parse (text : String) : Except Error BuildOptions :=
  match codec.parse text with
  | .ok options => .ok options
  | .error fault => .error (.json fault)

end BuildOptions

end Dialplan
