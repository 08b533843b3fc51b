import PreimageProof.Curve.Groups
import PreimageProof.Groth16.Keys

/-!
# The verifier contract

A contract in Solidity that checks proofs for one verifying key on the chain,
with the chain's own operations on the curve: the key is written into it, and
`verifyProof` takes the words of a proof and the inputs. Everything but the
key and the counts is the same for all keys.
-/

namespace PreimageProof

/-- The coordinates in decimal; zeros for infinity. -/
def G1.literal : G1 → String
  | .infinity => "G1Point(0, 0)"
  | .affine x y => s!"G1Point({x.val}, {y.val})"

/-- The coordinates in decimal, imaginary parts first; zeros for infinity. -/
def G2.literal : G2 → String
  | .infinity => "G2Point([uint256(0), 0], [uint256(0), 0])"
  | .affine x y =>
      s!"G2Point([uint256({x.im.val}), {x.re.val}], [uint256({y.im.val}), {y.re.val}])"

namespace Contract

/-- The number of variables as it is shown, in 64 bits. -/
def shownVariables (shape : Shape) : Nat := shape.width % (1 <<< 64)

/-- What the contract is, and the sizes of the circuit it belongs to. -/
def header (vk : VerifyingKey G1 G2) : List String :=
  ["// SPDX-License-Identifier: MIT",
    "// Generated by hash-proof. Circuit: " ++ toString vk.shape.constraints ++
      " constraints, " ++ toString (shownVariables vk.shape) ++ " variables.",
    "pragma solidity ^0.8.20;",
    ""]

/-- Types and operations of the curve. -/
def arithmetic : List String :=
  ["contract Verifier \x7b",
    "    uint256 constant SNARK_SCALAR_FIELD = " ++ toString scalarModulus ++ ";",
    "    uint256 constant PRIME_Q = " ++ toString baseModulus ++ ";",
    "",
    "    struct G1Point \x7b",
    "        uint256 X;",
    "        uint256 Y;",
    "    \x7d",
    "",
    "    // Coordinates are [imaginary, real].",
    "    struct G2Point \x7b",
    "        uint256[2] X;",
    "        uint256[2] Y;",
    "    \x7d",
    "",
    "    function negate(G1Point memory p) internal pure returns (G1Point memory) \x7b",
    "        if (p.X == 0 && p.Y == 0) \x7b",
    "            return G1Point(0, 0);",
    "        \x7d",
    "        return G1Point(p.X, PRIME_Q - (p.Y % PRIME_Q));",
    "    \x7d",
    "",
    "    function add(G1Point memory p1, G1Point memory p2) " ++
      "internal view returns (G1Point memory r) \x7b",
    "        uint256[4] memory input = [p1.X, p1.Y, p2.X, p2.Y];",
    "        bool success;",
    "        assembly \x7b",
    "            success := staticcall(gas(), 0x06, input, 0x80, r, 0x40)",
    "        \x7d",
    "        require(success, \"ec-add-failed\");",
    "    \x7d",
    "",
    "    function scalarMul(G1Point memory p, uint256 s) " ++
      "internal view returns (G1Point memory r) \x7b",
    "        uint256[3] memory input = [p.X, p.Y, s];",
    "        bool success;",
    "        assembly \x7b",
    "            success := staticcall(gas(), 0x07, input, 0x60, r, 0x40)",
    "        \x7d",
    "        require(success, \"ec-mul-failed\");",
    "    \x7d",
    "",
    "    function pairing(G1Point[4] memory a, G2Point[4] memory b) " ++
      "internal view returns (bool) \x7b",
    "        uint256[24] memory input;",
    "        for (uint256 i = 0; i < 4; i++) \x7b",
    "            input[i * 6 + 0] = a[i].X;",
    "            input[i * 6 + 1] = a[i].Y;",
    "            input[i * 6 + 2] = b[i].X[0];",
    "            input[i * 6 + 3] = b[i].X[1];",
    "            input[i * 6 + 4] = b[i].Y[0];",
    "            input[i * 6 + 5] = b[i].Y[1];",
    "        \x7d",
    "        uint256[1] memory out;",
    "        bool success;",
    "        assembly \x7b",
    "            success := staticcall(gas(), 0x08, input, 0x300, out, 0x20)",
    "        \x7d",
    "        require(success, \"pairing-failed\");",
    "        return out[0] == 1;",
    "    \x7d",
    ""]

/-- The key, one line for each point. -/
def key (vk : VerifyingKey G1 G2) : List String :=
  ["    function verifyingKey()",
    "        internal",
    "        pure",
    "        returns (",
    "            G1Point memory alpha,",
    "            G2Point memory beta,",
    "            G2Point memory gamma,",
    "            G2Point memory delta,",
    "            G1Point[" ++ toString vk.gammaAbc.length ++ "] memory ic",
    "        )",
    "    \x7b",
    "        alpha = " ++ G1.literal vk.alpha ++ ";",
    "        beta = " ++ G2.literal vk.beta ++ ";",
    "        gamma = " ++ G2.literal vk.gamma ++ ";",
    "        delta = " ++ G2.literal vk.delta ++ ";"] ++
  vk.gammaAbc.zipIdx.map (fun entry =>
    "        ic[" ++ toString entry.2 ++ "] = " ++ G1.literal entry.1 ++ ";") ++
  ["    \x7d",
    ""]

/-- The check of a proof: the equation of the verifier with the first pair negated. -/
def verification (vk : VerifyingKey G1 G2) : List String :=
  ["    function verifyProof(",
    "        uint256[8] calldata proof,",
    "        uint256[" ++ toString vk.publicInputs ++ "] calldata input",
    "    ) public view returns (bool) \x7b",
    "        for (uint256 i = 0; i < 8; i++) \x7b",
    "            require(proof[i] < PRIME_Q, \"proof-element-out-of-field\");",
    "        \x7d",
    "        (",
    "            G1Point memory alpha,",
    "            G2Point memory beta,",
    "            G2Point memory gamma,",
    "            G2Point memory delta,",
    "            G1Point[" ++ toString vk.gammaAbc.length ++ "] memory ic",
    "        ) = verifyingKey();",
    "",
    "        G1Point memory vkX = ic[0];",
    "        for (uint256 i = 0; i < " ++ toString vk.publicInputs ++ "; i++) \x7b",
    "            require(input[i] < SNARK_SCALAR_FIELD, \"input-out-of-field\");",
    "            vkX = add(vkX, scalarMul(ic[i + 1], input[i]));",
    "        \x7d",
    "",
    "        G1Point memory a = G1Point(proof[0], proof[1]);",
    "        G2Point memory b = G2Point([proof[2], proof[3]], [proof[4], proof[5]]);",
    "        G1Point memory c = G1Point(proof[6], proof[7]);",
    "        return pairing([negate(a), alpha, vkX, c], [b, beta, gamma, delta]);",
    "    \x7d",
    "\x7d"]

def lines (vk : VerifyingKey G1 G2) : List String :=
  header vk ++ arithmetic ++ key vk ++ verification vk

/-- The source of the contract for a key. -/
def source (vk : VerifyingKey G1 G2) : String :=
  String.join ((lines vk).map fun line => line ++ "\n")

end Contract

end PreimageProof
