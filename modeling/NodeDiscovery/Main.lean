import NodeDiscovery.Cli

/-! The program. -/
open NodeDiscovery

/-- The variables that providers, and the filter of log records, look at. -/
def variableNames : List String :=
  ["DIGITALOCEAN_TOKEN", "HCLOUD_TOKEN", "LINODE_TOKEN", "VULTR_API_KEY", "AWS_REGION",
    "AWS_DEFAULT_REGION", "AWS_ACCESS_KEY_ID", "AWS_SECRET_ACCESS_KEY", "AWS_SESSION_TOKEN",
    "RUST_LOG"]

def main (arguments : List String) : IO UInt32 := do
  let found ← variableNames.filterMapM fun name => do
    return (← IO.getEnv name).map (name, ·)
  let result := Cli.run (World.offline found) arguments
  IO.print result.stdout
  for line in result.stderr do IO.eprintln line
  return UInt32.ofNat result.exit
