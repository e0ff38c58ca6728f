/-!
# Settings

Where a notice goes and what it names. Each setting has a built-in value.
-/

namespace ManifestNotice

structure Settings where
  serverUrl : String := "https://intellinium.jetbrains.space"
  channelId : String := "3RHRvU3bsWEy"
  folder : String := "ncs-itl/nrf"
  branch : String := "master"
  deriving BEq, DecidableEq, Repr

inductive Setting where
  | serverUrl
  | channelId
  | folder
  | branch
  deriving BEq, DecidableEq, Repr

namespace Setting

def all : List Setting := [.serverUrl, .channelId, .folder, .branch]

def key : Setting → String
  | .serverUrl => "server_url"
  | .channelId => "channel_id"
  | .folder => "folder"
  | .branch => "branch"

def ofKey? (key : String) : Option Setting := all.find? (·.key == key)

theorem ofKey?_key (s : Setting) : ofKey? s.key = some s := by cases s <;> decide

end Setting

namespace Settings

def get (settings : Settings) : Setting → String
  | .serverUrl => settings.serverUrl
  | .channelId => settings.channelId
  | .folder => settings.folder
  | .branch => settings.branch

def set (settings : Settings) (setting : Setting) (value : String) : Settings :=
  match setting with
  | .serverUrl => { settings with serverUrl := value }
  | .channelId => { settings with channelId := value }
  | .folder => { settings with folder := value }
  | .branch => { settings with branch := value }

theorem get_set (settings : Settings) (setting other : Setting) (value : String) :
    (settings.set setting value).get other = if other = setting then value else settings.get other := by
  cases setting <;> cases other <;> rfl

end Settings

end ManifestNotice
