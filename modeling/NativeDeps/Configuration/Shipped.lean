import NativeDeps.Value

/-!
# The shipped configuration

The two files that are used when no directory of configuration files is named.
-/

namespace NativeDeps.Configuration.Shipped

def texts (items : List String) : Value :=
  .list (items.map .text)

/-- A mapping whose keys are texts. -/
def object (entries : List (String × Value)) : Value :=
  .mapping (entries.map fun (name, value) => (.text name, value))

/-- The file `environment.yaml`. -/
def environment : Value :=
  object
    [("environment",
        object
          [("name", .text "Pijul"),
            ("base_dependencies",
              texts ["xxHash", "zstd", "libsodium", "openssl", "pkgconfig"]),
            ("platform_condition", object [("platforms", texts ["darwin"])]),
            ("conditional_namespace", .text "darwin.apple_sdk.frameworks"),
            ("conditional_dependencies",
              texts ["CoreServices", "Security", "SystemConfiguration"])]),
      ("provisioners",
        object
          [("nix",
              object
                [("executable", .text "nix-shell"),
                  ("package_set", .text "<nixpkgs>"),
                  ("pure", .bool false)]),
            ("manifest",
              object [("filename", .text "environment-manifest.yaml")])]),
      ("options",
        object
          [("default_provisioner", .text "nix"),
            ("work_dir", .text "build/devenv")])]

/-- The file `platforms.yaml`. -/
def platforms : Value :=
  object
    [("platforms",
      object
        [("linux", object [("aliases", texts ["linux2", "gnu/linux"])]),
          ("darwin",
            object [("aliases", texts ["macos", "osx", "macosx", "mac"])]),
          ("windows",
            object
              [("aliases",
                texts ["win32", "win64", "win", "cygwin", "msys"])]),
          ("freebsd", object [("aliases", texts [])])])]

end NativeDeps.Configuration.Shipped
