import SecretLayers.Config.Validate
import SecretLayers.FileTree
/-!
Configurations in files.
-/
namespace SecretLayers.Config

def unreadableFile (path : String) (fault : FileFault) : Error :=
  .configuration ("Cannot read configuration file " ++ path ++ ": " ++ fault.message)

def ofFile (files : Files) (path : String) : Except Error Config :=
  match files.read path with
  | .error fault => .error (unreadableFile path fault)
  | .ok text => ofYaml text

end SecretLayers.Config
