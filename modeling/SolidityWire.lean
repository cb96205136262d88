import SolidityWire.Codec.Decode
import SolidityWire.Codec.Encode
import SolidityWire.Main
import SolidityWire.Solidity.Registrar
import SolidityWire.Wire.Reader
import SolidityWire.Wire.Step
import SolidityWire.Proofs.Codec.Canonical
import SolidityWire.Proofs.Codec.Faithful
import SolidityWire.Proofs.Codec.RoundTrip
import SolidityWire.Proofs.Codec.Total
import SolidityWire.Proofs.Schema.Loading
import SolidityWire.Proofs.Shape.Acceptance
import SolidityWire.Proofs.Codec.Served
import SolidityWire.Proofs.Codec.Discriminant
import SolidityWire.Proofs.Codec.Flag
import SolidityWire.Proofs.Codec.Extension
import SolidityWire.Proofs.Codec.Making
import SolidityWire.Proofs.Shape.Order
import SolidityWire.Proofs.Shape.References
import SolidityWire.Proofs.Solidity.Functions
import SolidityWire.Proofs.Solidity.Locals
import SolidityWire.Proofs.Solidity.Names
import SolidityWire.Proofs.Codec.OneByte
import SolidityWire.Proofs.Solidity.Registrar
import SolidityWire.Proofs.Wire.CountedText
import SolidityWire.Proofs.Codec.Lists
import SolidityWire.Proofs.Codec.Literal
import SolidityWire.Proofs.Solidity.Locations
import SolidityWire.Proofs.Solidity.Settled
import SolidityWire.Proofs.Solidity.Options
import SolidityWire.Proofs.Wire.Appending
import SolidityWire.Proofs.Wire.Consumption
