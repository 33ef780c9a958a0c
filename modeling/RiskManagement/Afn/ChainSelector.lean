import RiskManagement.Afn.Common
import RiskManagement.Afn.Hashable

/-!
# Chain ids and chain selectors
-/

namespace RiskManagement

/-- The discriminants of `ChainName`. -/
def ChainName.chainId : ChainName → UInt64
  | arbitrum => 42161
  | avax => 43114
  | base => 8453
  | bsc => 56
  | celo => 42220
  | ethereum => 1
  | gnosis => 100
  | kroma => 255
  | linea => 59144
  | mantle => 5000
  | metis => 1088
  | optimism => 10
  | polygon => 137
  | polygonZkEvm => 1101
  | scroll => 534352
  | wemix => 1111
  | arbitrumGoerli => 421613
  | arbitrumSepolia => 421614
  | avaxFuji => 43113
  | baseGoerli => 84531
  | baseSepolia => 84532
  | bscTestnet => 97
  | celoAlfajores => 44787
  | fraxtalTestnet => 2522
  | gnosisChiado => 10200
  | goerli => 5
  | kromaSepolia => 2358
  | lineaSepolia => 59141
  | mantleGoerli => 5001
  | mantleSepolia => 5003
  | metisSepolia => 59902
  | optimismGoerli => 420
  | optimismSepolia => 11155420
  | polygonMumbai => 80001
  | polygonAmoy => 80002
  | polygonZkEvmTestnet => 1442
  | polygonZkEvmSepolia => 2442
  | scrollSepolia => 534351
  | sepolia => 11155111
  | wemixTestnet => 1112
  | zkSyncGoerli => 280

/-- `none` is the panic of `unimplemented!()`. -/
def chainSelector : ChainName → Option ChainSelector
  | .arbitrum => some 4949039107694359620
  | .avax => some 6433500567565415381
  | .base => some 15971525489660198786
  | .bsc => some 11344663589394136015
  | .celo => some 1346049177634351622
  | .ethereum => some 5009297550715157269
  | .gnosis => some 465200170687744372
  | .kroma => some 3719320017875267166
  | .linea => some 4627098889531055414
  | .mantle => some 1556008542357238666
  | .metis => some 8805746078405598895
  | .optimism => some 3734403246176062136
  | .polygon => some 4051577828743386545
  | .polygonZkEvm => some 4348158687435793198
  | .scroll => some 13204309965629103672
  | .wemix => some 5142893604156789321
  | .arbitrumGoerli => some 0x54ABF9FB1AFEAF95
  | .arbitrumSepolia => some 3478487238524512106
  | .avaxFuji => some 0xCCF0A31A221F3C9B
  | .baseGoerli => some 5790810961207155433
  | .baseSepolia => some 10344971235874465080
  | .bscTestnet => some 13264668187771770619
  | .celoAlfajores => some 3552045678561919002
  | .fraxtalTestnet => some 8901520481741771655
  | .gnosisChiado => some 8871595565390010547
  | .goerli => none
  | .kromaSepolia => some 5990477251245693094
  | .lineaSepolia => some 5719461335882077547
  | .mantleGoerli => some 4168263376276232250
  | .mantleSepolia => some 8236463271206331221
  | .metisSepolia => some 3777822886988675105
  | .optimismGoerli => some 0x24F9B897EF58A922
  | .optimismSepolia => some 5224473277236331295
  | .polygonMumbai => some 0xADECC60412CE25A5
  | .polygonAmoy => some 16281711391670634445
  | .polygonZkEvmTestnet => some 11059667695644972511
  | .polygonZkEvmSepolia => some 1654667687261492630
  | .scrollSepolia => some 2279865765895943307
  | .sepolia => some 0xDE41BA4FC9D91AD9
  | .wemixTestnet => some 9284632837123596123
  | .zkSyncGoerli => some 6802309497652714138

end RiskManagement
