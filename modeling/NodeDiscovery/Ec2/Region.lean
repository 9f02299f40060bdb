/-! The regions of EC2. -/
namespace NodeDiscovery.Ec2

/-- A region: the name that requests are signed for, and the endpoint that they go to, which follows
from the name unless one is given. -/
structure Region where
  name : String
  endpoint : Option String := none
deriving DecidableEq, Repr

namespace Region

def names : List String :=
  ["ap-east-1", "ap-northeast-1", "ap-northeast-2", "ap-northeast-3", "ap-south-1",
    "ap-southeast-1", "ap-southeast-2", "ca-central-1", "eu-central-1", "eu-west-1", "eu-west-2",
    "eu-west-3", "eu-north-1", "eu-south-1", "me-south-1", "sa-east-1", "us-east-1", "us-east-2",
    "us-west-1", "us-west-2", "us-gov-east-1", "us-gov-west-1", "cn-north-1", "cn-northwest-1",
    "af-south-1"]

def withoutDashes (name : String) : List Char := name.toList.filter (· ≠ '-')

/-- The region meant by a text in letters of any case, with all its dashes or none. -/
def ofText? (s : String) : Option Region :=
  let s := s.toList.map Char.toLower
  (names.find? fun name => name.toList == s || withoutDashes name == s).map fun name => { name }

/-- Where nothing else is said. -/
def fallback : Region := { name := "us-east-1" }

/-- The region of the environment. The first variable that is set decides, even if its value names
no region. -/
def ofEnvironment (env : String → Option String) : Region :=
  match env "AWS_DEFAULT_REGION" <|> env "AWS_REGION" with
  | some s => (ofText? s).getD fallback
  | none => fallback

/-- The region as it is reached at an endpoint, if one is given. -/
def reachedAt (r : Region) : Option String → Region
  | some endpoint => { r with endpoint := some endpoint }
  | none => r

end Region
end NodeDiscovery.Ec2
